import ParseForest.Text.Cluster
import ParseForest.Text.Utf8

namespace ParseForest
namespace Text

/-!
# Display width

A table lines up when its cells are padded to equal display width, which is not
their number of bytes or characters: combining marks and controls take no
column, East Asian wide characters take two, and a grapheme cluster takes as
many as its first visible character.  Escape sequences that only set the
colour of a terminal or clear its line are not displayed at all.
-/

namespace Width

/-- Characters that take two columns. -/
def wide : CodeRanges := .read "
1100-115F 231A-231B 2329-232A 23E9-23EC 23F0 23F3 25FD-25FE 2614-2615 2648-2653 267F 2693 26A1
26AA-26AB 26BD-26BE 26C4-26C5 26CE 26D4 26EA 26F2-26F3 26F5 26FA 26FD 2705 270A-270B 2728 274C
274E 2753-2755 2757 2795-2797 27B0 27BF 2B1B-2B1C 2B50 2B55 2E80-2E99 2E9B-2EF3 2F00-2FD5
2FF0-2FFB 3000-303E 3041-3096 3099-30FF 3105-312F 3131-318E 3190-31E3 31F0-321E 3220-3247
3250-4DBF 4E00-A48C A490-A4C6 A960-A97C AC00-D7A3 F900-FAFF FE10-FE19 FE30-FE52 FE54-FE66
FE68-FE6B FF01-FF60 FFE0-FFE6 16FE0-16FE4 16FF0-16FF1 17000-187F7 18800-18CD5 18D00-18D08
1B000-1B11E 1B150-1B152 1B164-1B167 1B170-1B2FB 1F004 1F0CF 1F18E 1F191-1F19A 1F200-1F202
1F210-1F23B 1F240-1F248 1F250-1F251 1F260-1F265 1F300-1F320 1F32D-1F335 1F337-1F37C 1F37E-1F393
1F3A0-1F3CA 1F3CF-1F3D3 1F3E0-1F3F0 1F3F4 1F3F8-1F43E 1F440 1F442-1F4FC 1F4FF-1F53D 1F54B-1F54E
1F550-1F567 1F57A 1F595-1F596 1F5A4 1F5FB-1F64F 1F680-1F6C5 1F6CC 1F6D0-1F6D2 1F6D5-1F6D7
1F6EB-1F6EC 1F6F4-1F6FC 1F7E0-1F7EB 1F90C-1F93A 1F93C-1F945 1F947-1F978 1F97A-1F9CB 1F9CD-1F9FF
1FA70-1FA74 1FA78-1FA7A 1FA80-1FA86 1FA90-1FAA8 1FAB0-1FAB6 1FAC0-1FAC2 1FAD0-1FAD6 20000-2FFFD
30000-3FFFD"

/-- Marks that are drawn over the character before them. -/
def combining : CodeRanges := .read "
300-36F 483-487 7EB-7F3 C00 C04 D00-D01 135D-135F 1A7F 1AB0-1AC0 1B6B-1B73 1DC0-1DF9 1DFB-1DFF
20D0-20F0 2CEF-2CF1 2DE0-2DFF 3099-309A A66F-A672 A674-A67D A69E-A69F A6F0-A6F1 A8E0-A8F1
FE20-FE2F 101FD 10376-1037A 10EAB-10EAC 10F46-10F50 11300-11301 1133B-1133C 11366-1136C
11370-11374 16AF0-16AF4 1D165-1D169 1D16D-1D172 1D17B-1D182 1D185-1D18B 1D1AA-1D1AD 1D242-1D244
1E000-1E006 1E008-1E018 1E01B-1E021 1E023-1E024 1E026-1E02A 1E8D0-1E8D6"

/-- Format characters and others that are never drawn. -/
def hidden : CodeRanges := .read "
0-1F 7F-9F AD 70F 180B-180E 200B-200F 2028-202E 206A-206F FEFF FFF9-FFFB FFFE-FFFF"

def ofChar (c : Char) : Nat :=
  let code := c.toNat
  if code < 0x20 || (0x7F ≤ code && code ≤ 0x9F) || code = 0xAD then 0
  else if code < 0x300 then 1
  else if hidden.holds code || combining.holds code then 0
  else if wide.holds code then 2
  else 1

def ofCluster : List Char → Nat
  | [] => 0
  | c :: cs => if ofChar c = 0 then ofCluster cs else ofChar c

/-- Read one to three digits, and return what follows them. -/
def number? (cs : List Char) : Option (List Char) :=
  let count := ((cs.take 3).takeWhile Char.isDigit).length
  if count = 0 then none else some (cs.drop count)

/-- The length of the longest list of numbers with semicolons between them,
for at most `limit` numbers. -/
def parameters : (limit : Nat) → List Char → List Char
  | 0, cs => cs
  | limit + 1, cs =>
    match cs with
    | ';' :: rest =>
      match number? rest with
      | some rest => parameters limit rest
      | none => cs
    | _ => cs

/-- What follows a display escape sequence: an escape character and a bracket,
numbers, and one of `m`, `|` and `K`. -/
def escape? (cs : List Char) : Option (List Char) :=
  match cs with
  | '\x1b' :: '[' :: rest =>
    let rest :=
      match number? rest with
      | some rest => parameters rest.length rest
      | none => rest
    match rest with
    | c :: rest => if c = 'm' || c = '|' || c = 'K' then some rest else none
    | [] => none
  | _ => none

def visible : (limit : Nat) → List Char → List Char
  | 0, cs => cs
  | limit + 1, cs =>
    match escape? cs with
    | some rest => visible limit rest
    | none =>
      match cs with
      | [] => []
      | c :: cs => c :: visible limit cs

end Width

/-- The columns a text takes when it is displayed. -/
def width (text : Text) : Nat :=
  let cs := text.chars
  (clusters (Width.visible cs.length cs)).foldl (fun total c => total + Width.ofCluster c) 0

end Text
end ParseForest
