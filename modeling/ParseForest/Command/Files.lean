import ParseForest.Text.Basic

namespace ParseForest
namespace Command

/-!
# Files

Commands look up names in a file system, and a name leads to a file, to a
folder or nowhere.  A folder given by a list of its files says where every name
leads: names are followed part by part, and two dots go back.  Of what lies
outside only what every system has is known.
-/

/-- Where a name leads. -/
inductive Entry where
  | file (content : Text)
  | folder
  /-- Nowhere, for the reason given. -/
  | unavailable (reason : Text)

namespace Entry

def content (name : Text) : Entry → Except Text Text
  | .file content => .ok content
  | .folder => .error ("read " ++ name ++ ": is a directory")
  | .unavailable reason => .error ("open " ++ name ++ ": " ++ reason)

end Entry

/-- A folder with its files, each given by the parts of its name. -/
structure Folder where
  files : List (List Text × Text)

namespace Folder

/-- The parts of a name between slashes, at least one. -/
def parts : Text → List Text
  | [] => [[]]
  | b :: rest =>
    if b = Text.byte '/' then [] :: parts rest
    else
      match parts rest with
      | [] => [[b]]
      | part :: others => (b :: part) :: others

/-- Whether a part of a name stays where it is. -/
def isIdle (part : Text) : Bool :=
  part = [] || part = Text.ofString "."

/-- The folder with files of given names and contents. -/
def ofList (files : List (Text × Text)) : Folder where
  files := files.map fun (name, content) => ((parts name).filter (!isIdle ·), content)

/-- A place that can be reached by following a name. -/
inductive Place where
  /-- The folder at the end of a path from where names start. -/
  | inside (path : List Text)
  /-- A folder that does not lie there. -/
  | outside
  /-- The folder at the end of a path from the root. -/
  | system (path : List Text)
  | file (content : Text)

def absent : Text := "no such file or directory"

def tooLong : Text := "file name too long"

/-- The number of bytes that a part of a name may have. -/
def maxPart : Nat := 255

/-- The number of bytes that a name may have. -/
def maxName : Nat := 4095

/-- The folders at the root that every system has. -/
def systemFolders : List Text :=
  ["bin", "dev", "etc", "proc", "root", "sys", "tmp", "usr", "var"].map Text.ofString

/-- The file that is always empty. -/
def emptyFile : List Text :=
  ["dev", "null"].map Text.ofString

def enter (f : Folder) (place : Place) (part : Text) : Except Text Place :=
  if part = Text.ofString ".." then
    .ok (match place with
      | .inside path => if path = [] then .outside else .inside path.dropLast
      | .system path => .system path.dropLast
      | other => other)
  else if maxPart < part.length then .error tooLong
  else
    match place with
    | .inside path =>
      let longer := path ++ [part]
      match f.files.lookup longer with
      | some content => .ok (.file content)
      | none =>
        if f.files.any fun file => longer.isPrefixOf file.1 then .ok (.inside longer)
        else .error absent
    | .system path =>
      let longer := path ++ [part]
      if longer = emptyFile then .ok (.file [])
      else if path = [] && systemFolders.contains part then .ok (.system longer)
      else .error absent
    | _ => .error absent

/-- Follow one part of a name. -/
def follow (f : Folder) (place : Place) (part : Text) : Except Text Place :=
  match place with
  | .file _ => .error "not a directory"
  | _ => if isIdle part then .ok place else f.enter place part

def entry (f : Folder) (name : Text) : Entry :=
  if name = [] then .unavailable absent
  else if name.contains 0 then .unavailable "invalid argument"
  else if maxName < name.length then .unavailable tooLong
  else
    let origin := if name.head? = some (Text.byte '/') then Place.system [] else .inside []
    match (parts name).foldlM f.follow origin with
    | .error reason => .unavailable reason
    | .ok (.file content) => .file content
    | .ok _ => .folder

end Folder
end Command
end ParseForest
