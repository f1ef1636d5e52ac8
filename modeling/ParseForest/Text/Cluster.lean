import ParseForest.Text.Runs

namespace ParseForest
namespace Text

/-!
# Grapheme clusters

What a reader takes for one character can be several code points: a letter with
marks, a flag, a family of pictographs joined by joiners.  The cluster break
property sorts the code points by the part they play, and a few rules say
between which neighbours a cluster goes on.  The table is that of version 12.0
of the Unicode character database.
-/

namespace Cluster

/-- The part each code point plays.  All precomposed Hangul syllables have the
value `Syllable` here; whether one can still take a vowel follows from its
code. -/
def table : Runs := .read "
0:Control A:LF B:Control D:CR E:Control 20:Other 7F:Control A0:Other A9:Pictographic AA:Other
AD:Control AE:Pictographic AF:Other 300:Extend 370:Other 483:Extend 48A:Other 591:Extend
5BE:Other 5BF:Extend 5C0:Other 5C1:Extend 5C3:Other 5C4:Extend 5C6:Other 5C7:Extend 5C8:Other
600:Prepend 606:Other 610:Extend 61B:Other 61C:Control 61D:Other 64B:Extend 660:Other 670:Extend
671:Other 6D6:Extend 6DD:Prepend 6DE:Other 6DF:Extend 6E5:Other 6E7:Extend 6E9:Other 6EA:Extend
6EE:Other 70F:Prepend 710:Other 711:Extend 712:Other 730:Extend 74B:Other 7A6:Extend 7B1:Other
7EB:Extend 7F4:Other 7FD:Extend 7FE:Other 816:Extend 81A:Other 81B:Extend 824:Other 825:Extend
828:Other 829:Extend 82E:Other 859:Extend 85C:Other 8D3:Extend 8E2:Prepend 8E3:Extend
903:Spacing 904:Other 93A:Extend 93B:Spacing 93C:Extend 93D:Other 93E:Spacing 941:Extend
949:Spacing 94D:Extend 94E:Spacing 950:Other 951:Extend 958:Other 962:Extend 964:Other
981:Extend 982:Spacing 984:Other 9BC:Extend 9BD:Other 9BE:Extend 9BF:Spacing 9C1:Extend
9C5:Other 9C7:Spacing 9C9:Other 9CB:Spacing 9CD:Extend 9CE:Other 9D7:Extend 9D8:Other 9E2:Extend
9E4:Other 9FE:Extend 9FF:Other A01:Extend A03:Spacing A04:Other A3C:Extend A3D:Other A3E:Spacing
A41:Extend A43:Other A47:Extend A49:Other A4B:Extend A4E:Other A51:Extend A52:Other A70:Extend
A72:Other A75:Extend A76:Other A81:Extend A83:Spacing A84:Other ABC:Extend ABD:Other ABE:Spacing
AC1:Extend AC6:Other AC7:Extend AC9:Spacing ACA:Other ACB:Spacing ACD:Extend ACE:Other
AE2:Extend AE4:Other AFA:Extend B00:Other B01:Extend B02:Spacing B04:Other B3C:Extend B3D:Other
B3E:Extend B40:Spacing B41:Extend B45:Other B47:Spacing B49:Other B4B:Spacing B4D:Extend
B4E:Other B56:Extend B58:Other B62:Extend B64:Other B82:Extend B83:Other BBE:Extend BBF:Spacing
BC0:Extend BC1:Spacing BC3:Other BC6:Spacing BC9:Other BCA:Spacing BCD:Extend BCE:Other
BD7:Extend BD8:Other C00:Extend C01:Spacing C04:Extend C05:Other C3E:Extend C41:Spacing
C45:Other C46:Extend C49:Other C4A:Extend C4E:Other C55:Extend C57:Other C62:Extend C64:Other
C81:Extend C82:Spacing C84:Other CBC:Extend CBD:Other CBE:Spacing CBF:Extend CC0:Spacing
CC2:Extend CC3:Spacing CC5:Other CC6:Extend CC7:Spacing CC9:Other CCA:Spacing CCC:Extend
CCE:Other CD5:Extend CD7:Other CE2:Extend CE4:Other D00:Extend D02:Spacing D04:Other D3B:Extend
D3D:Other D3E:Extend D3F:Spacing D41:Extend D45:Other D46:Spacing D49:Other D4A:Spacing
D4D:Extend D4E:Prepend D4F:Other D57:Extend D58:Other D62:Extend D64:Other D82:Spacing D84:Other
DCA:Extend DCB:Other DCF:Extend DD0:Spacing DD2:Extend DD5:Other DD6:Extend DD7:Other
DD8:Spacing DDF:Extend DE0:Other DF2:Spacing DF4:Other E31:Extend E32:Other E33:Spacing
E34:Extend E3B:Other E47:Extend E4F:Other EB1:Extend EB2:Other EB3:Spacing EB4:Extend EBD:Other
EC8:Extend ECE:Other F18:Extend F1A:Other F35:Extend F36:Other F37:Extend F38:Other F39:Extend
F3A:Other F3E:Spacing F40:Other F71:Extend F7F:Spacing F80:Extend F85:Other F86:Extend F88:Other
F8D:Extend F98:Other F99:Extend FBD:Other FC6:Extend FC7:Other 102D:Extend 1031:Spacing
1032:Extend 1038:Other 1039:Extend 103B:Spacing 103D:Extend 103F:Other 1056:Spacing 1058:Extend
105A:Other 105E:Extend 1061:Other 1071:Extend 1075:Other 1082:Extend 1083:Other 1084:Spacing
1085:Extend 1087:Other 108D:Extend 108E:Other 109D:Extend 109E:Other 1100:L 1160:V 11A8:T
1200:Other 135D:Extend 1360:Other 1712:Extend 1715:Other 1732:Extend 1735:Other 1752:Extend
1754:Other 1772:Extend 1774:Other 17B4:Extend 17B6:Spacing 17B7:Extend 17BE:Spacing 17C6:Extend
17C7:Spacing 17C9:Extend 17D4:Other 17DD:Extend 17DE:Other 180B:Extend 180E:Control 180F:Other
1885:Extend 1887:Other 18A9:Extend 18AA:Other 1920:Extend 1923:Spacing 1927:Extend 1929:Spacing
192C:Other 1930:Spacing 1932:Extend 1933:Spacing 1939:Extend 193C:Other 1A17:Extend 1A19:Spacing
1A1B:Extend 1A1C:Other 1A55:Spacing 1A56:Extend 1A57:Spacing 1A58:Extend 1A5F:Other 1A60:Extend
1A61:Other 1A62:Extend 1A63:Other 1A65:Extend 1A6D:Spacing 1A73:Extend 1A7D:Other 1A7F:Extend
1A80:Other 1AB0:Extend 1ABF:Other 1B00:Extend 1B04:Spacing 1B05:Other 1B34:Extend 1B3B:Spacing
1B3C:Extend 1B3D:Spacing 1B42:Extend 1B43:Spacing 1B45:Other 1B6B:Extend 1B74:Other 1B80:Extend
1B82:Spacing 1B83:Other 1BA1:Spacing 1BA2:Extend 1BA6:Spacing 1BA8:Extend 1BAA:Spacing
1BAB:Extend 1BAE:Other 1BE6:Extend 1BE7:Spacing 1BE8:Extend 1BEA:Spacing 1BED:Extend
1BEE:Spacing 1BEF:Extend 1BF2:Spacing 1BF4:Other 1C24:Spacing 1C2C:Extend 1C34:Spacing
1C36:Extend 1C38:Other 1CD0:Extend 1CD3:Other 1CD4:Extend 1CE1:Spacing 1CE2:Extend 1CE9:Other
1CED:Extend 1CEE:Other 1CF4:Extend 1CF5:Other 1CF7:Spacing 1CF8:Extend 1CFA:Other 1DC0:Extend
1DFA:Other 1DFB:Extend 1E00:Other 200B:Control 200C:Extend 200D:ZWJ 200E:Control 2010:Other
2028:Control 202F:Other 203C:Pictographic 203D:Other 2049:Pictographic 204A:Other 2060:Control
2070:Other 20D0:Extend 20F1:Other 2122:Pictographic 2123:Other 2139:Pictographic 213A:Other
2194:Pictographic 219A:Other 21A9:Pictographic 21AB:Other 231A:Pictographic 231C:Other
2328:Pictographic 2329:Other 2388:Pictographic 2389:Other 23CF:Pictographic 23D0:Other
23E9:Pictographic 23F4:Other 23F8:Pictographic 23FB:Other 24C2:Pictographic 24C3:Other
25AA:Pictographic 25AC:Other 25B6:Pictographic 25B7:Other 25C0:Pictographic 25C1:Other
25FB:Pictographic 25FF:Other 2600:Pictographic 2606:Other 2607:Pictographic 2613:Other
2614:Pictographic 2686:Other 2690:Pictographic 2706:Other 2708:Pictographic 2713:Other
2714:Pictographic 2715:Other 2716:Pictographic 2717:Other 271D:Pictographic 271E:Other
2721:Pictographic 2722:Other 2728:Pictographic 2729:Other 2733:Pictographic 2735:Other
2744:Pictographic 2745:Other 2747:Pictographic 2748:Other 274C:Pictographic 274D:Other
274E:Pictographic 274F:Other 2753:Pictographic 2756:Other 2757:Pictographic 2758:Other
2763:Pictographic 2768:Other 2795:Pictographic 2798:Other 27A1:Pictographic 27A2:Other
27B0:Pictographic 27B1:Other 27BF:Pictographic 27C0:Other 2934:Pictographic 2936:Other
2B05:Pictographic 2B08:Other 2B1B:Pictographic 2B1D:Other 2B50:Pictographic 2B51:Other
2B55:Pictographic 2B56:Other 2CEF:Extend 2CF2:Other 2D7F:Extend 2D80:Other 2DE0:Extend
2E00:Other 302A:Extend 3030:Pictographic 3031:Other 303D:Pictographic 303E:Other 3099:Extend
309B:Other 3297:Pictographic 3298:Other 3299:Pictographic 329A:Other A66F:Extend A673:Other
A674:Extend A67E:Other A69E:Extend A6A0:Other A6F0:Extend A6F2:Other A802:Extend A803:Other
A806:Extend A807:Other A80B:Extend A80C:Other A823:Spacing A825:Extend A827:Spacing A828:Other
A880:Spacing A882:Other A8B4:Spacing A8C4:Extend A8C6:Other A8E0:Extend A8F2:Other A8FF:Extend
A900:Other A926:Extend A92E:Other A947:Extend A952:Spacing A954:Other A960:L A97D:Other
A980:Extend A983:Spacing A984:Other A9B3:Extend A9B4:Spacing A9B6:Extend A9BA:Spacing
A9BC:Extend A9BE:Spacing A9C1:Other A9E5:Extend A9E6:Other AA29:Extend AA2F:Spacing AA31:Extend
AA33:Spacing AA35:Extend AA37:Other AA43:Extend AA44:Other AA4C:Extend AA4D:Spacing AA4E:Other
AA7C:Extend AA7D:Other AAB0:Extend AAB1:Other AAB2:Extend AAB5:Other AAB7:Extend AAB9:Other
AABE:Extend AAC0:Other AAC1:Extend AAC2:Other AAEB:Spacing AAEC:Extend AAEE:Spacing AAF0:Other
AAF5:Spacing AAF6:Extend AAF7:Other ABE3:Spacing ABE5:Extend ABE6:Spacing ABE8:Extend
ABE9:Spacing ABEB:Other ABEC:Spacing ABED:Extend ABEE:Other AC00:Syllable D7A4:Other D7B0:V
D7C7:Other D7CB:T D7FC:Other FB1E:Extend FB1F:Other FE00:Extend FE10:Other FE20:Extend
FE30:Other FEFF:Control FF00:Other FF9E:Extend FFA0:Other FFF0:Control FFFC:Other 101FD:Extend
101FE:Other 102E0:Extend 102E1:Other 10376:Extend 1037B:Other 10A01:Extend 10A04:Other
10A05:Extend 10A07:Other 10A0C:Extend 10A10:Other 10A38:Extend 10A3B:Other 10A3F:Extend
10A40:Other 10AE5:Extend 10AE7:Other 10D24:Extend 10D28:Other 10F46:Extend 10F51:Other
11000:Spacing 11001:Extend 11002:Spacing 11003:Other 11038:Extend 11047:Other 1107F:Extend
11082:Spacing 11083:Other 110B0:Spacing 110B3:Extend 110B7:Spacing 110B9:Extend 110BB:Other
110BD:Prepend 110BE:Other 110CD:Prepend 110CE:Other 11100:Extend 11103:Other 11127:Extend
1112C:Spacing 1112D:Extend 11135:Other 11145:Spacing 11147:Other 11173:Extend 11174:Other
11180:Extend 11182:Spacing 11183:Other 111B3:Spacing 111B6:Extend 111BF:Spacing 111C1:Other
111C2:Prepend 111C4:Other 111C9:Extend 111CD:Other 1122C:Spacing 1122F:Extend 11232:Spacing
11234:Extend 11235:Spacing 11236:Extend 11238:Other 1123E:Extend 1123F:Other 112DF:Extend
112E0:Spacing 112E3:Extend 112EB:Other 11300:Extend 11302:Spacing 11304:Other 1133B:Extend
1133D:Other 1133E:Extend 1133F:Spacing 11340:Extend 11341:Spacing 11345:Other 11347:Spacing
11349:Other 1134B:Spacing 1134E:Other 11357:Extend 11358:Other 11362:Spacing 11364:Other
11366:Extend 1136D:Other 11370:Extend 11375:Other 11435:Spacing 11438:Extend 11440:Spacing
11442:Extend 11445:Spacing 11446:Extend 11447:Other 1145E:Extend 1145F:Other 114B0:Extend
114B1:Spacing 114B3:Extend 114B9:Spacing 114BA:Extend 114BB:Spacing 114BD:Extend 114BE:Spacing
114BF:Extend 114C1:Spacing 114C2:Extend 114C4:Other 115AF:Extend 115B0:Spacing 115B2:Extend
115B6:Other 115B8:Spacing 115BC:Extend 115BE:Spacing 115BF:Extend 115C1:Other 115DC:Extend
115DE:Other 11630:Spacing 11633:Extend 1163B:Spacing 1163D:Extend 1163E:Spacing 1163F:Extend
11641:Other 116AB:Extend 116AC:Spacing 116AD:Extend 116AE:Spacing 116B0:Extend 116B6:Spacing
116B7:Extend 116B8:Other 1171D:Extend 11720:Spacing 11722:Extend 11726:Spacing 11727:Extend
1172C:Other 1182C:Spacing 1182F:Extend 11838:Spacing 11839:Extend 1183B:Other 119D1:Spacing
119D4:Extend 119D8:Other 119DA:Extend 119DC:Spacing 119E0:Extend 119E1:Other 119E4:Spacing
119E5:Other 11A01:Extend 11A0B:Other 11A33:Extend 11A39:Spacing 11A3A:Prepend 11A3B:Extend
11A3F:Other 11A47:Extend 11A48:Other 11A51:Extend 11A57:Spacing 11A59:Extend 11A5C:Other
11A84:Prepend 11A8A:Extend 11A97:Spacing 11A98:Extend 11A9A:Other 11C2F:Spacing 11C30:Extend
11C37:Other 11C38:Extend 11C3E:Spacing 11C3F:Extend 11C40:Other 11C92:Extend 11CA8:Other
11CA9:Spacing 11CAA:Extend 11CB1:Spacing 11CB2:Extend 11CB4:Spacing 11CB5:Extend 11CB7:Other
11D31:Extend 11D37:Other 11D3A:Extend 11D3B:Other 11D3C:Extend 11D3E:Other 11D3F:Extend
11D46:Prepend 11D47:Extend 11D48:Other 11D8A:Spacing 11D8F:Other 11D90:Extend 11D92:Other
11D93:Spacing 11D95:Extend 11D96:Spacing 11D97:Extend 11D98:Other 11EF3:Extend 11EF5:Spacing
11EF7:Other 13430:Control 13439:Other 16AF0:Extend 16AF5:Other 16B30:Extend 16B37:Other
16F4F:Extend 16F50:Other 16F51:Spacing 16F88:Other 16F8F:Extend 16F93:Other 1BC9D:Extend
1BC9F:Other 1BCA0:Control 1BCA4:Other 1D165:Extend 1D166:Spacing 1D167:Extend 1D16A:Other
1D16D:Spacing 1D16E:Extend 1D173:Control 1D17B:Extend 1D183:Other 1D185:Extend 1D18C:Other
1D1AA:Extend 1D1AE:Other 1D242:Extend 1D245:Other 1DA00:Extend 1DA37:Other 1DA3B:Extend
1DA6D:Other 1DA75:Extend 1DA76:Other 1DA84:Extend 1DA85:Other 1DA9B:Extend 1DAA0:Other
1DAA1:Extend 1DAB0:Other 1E000:Extend 1E007:Other 1E008:Extend 1E019:Other 1E01B:Extend
1E022:Other 1E023:Extend 1E025:Other 1E026:Extend 1E02B:Other 1E130:Extend 1E137:Other
1E2EC:Extend 1E2F0:Other 1E8D0:Extend 1E8D7:Other 1E944:Extend 1E94B:Other 1F000:Pictographic
1F100:Other 1F10D:Pictographic 1F110:Other 1F12F:Pictographic 1F130:Other 1F16C:Pictographic
1F172:Other 1F17E:Pictographic 1F180:Other 1F18E:Pictographic 1F18F:Other 1F191:Pictographic
1F19B:Other 1F1AD:Pictographic 1F1E6:Regional 1F200:Other 1F201:Pictographic 1F210:Other
1F21A:Pictographic 1F21B:Other 1F22F:Pictographic 1F230:Other 1F232:Pictographic 1F23B:Other
1F23C:Pictographic 1F240:Other 1F249:Pictographic 1F3FB:Extend 1F400:Pictographic 1F53E:Other
1F546:Pictographic 1F650:Other 1F680:Pictographic 1F700:Other 1F774:Pictographic 1F780:Other
1F7D5:Pictographic 1F800:Other 1F80C:Pictographic 1F810:Other 1F848:Pictographic 1F850:Other
1F85A:Pictographic 1F860:Other 1F888:Pictographic 1F890:Other 1F8AE:Pictographic 1F900:Other
1F90C:Pictographic 1F93B:Other 1F93C:Pictographic 1F946:Other 1F947:Pictographic 1FFFE:Other
E0000:Control E0020:Extend E0080:Control E0100:Extend E01F0:Control E1000:Other"

/-- The part a character plays in a cluster. -/
inductive Part where
  | other
  | carriageReturn
  | lineFeed
  | control
  | extend
  | joiner
  | regional
  | prepend
  | spacing
  | leadingJamo
  | vowelJamo
  | trailingJamo
  | openSyllable
  | closedSyllable
  | pictographic
  deriving DecidableEq

def part (c : Char) : Part :=
  match table.value c.toNat with
  | "CR" => .carriageReturn
  | "LF" => .lineFeed
  | "Control" => .control
  | "Extend" => .extend
  | "ZWJ" => .joiner
  | "Regional" => .regional
  | "Prepend" => .prepend
  | "Spacing" => .spacing
  | "L" => .leadingJamo
  | "V" => .vowelJamo
  | "T" => .trailingJamo
  | "Syllable" => if (c.toNat - 0xAC00) % 28 = 0 then .openSyllable else .closedSyllable
  | "Pictographic" => .pictographic
  | _ => .other

/-- What matters of the characters so far for whether the cluster goes on. -/
inductive Progress where
  /-- Nothing. -/
  | plain
  | carriageReturn
  | control
  | prepended
  /-- An initial consonant of a syllable. -/
  | leading
  /-- A syllable up to its vowel. -/
  | vowel
  /-- A whole syllable. -/
  | trailing
  | pictograph
  /-- A pictograph and a joiner behind it. -/
  | joined
  | oddRegional
  | evenRegional
  deriving DecidableEq

/-- The progress behind a character that is looked at by itself, and whether it
begins a new cluster. -/
def alone : Part → Progress × Bool
  | .other => (.plain, true)
  | .carriageReturn => (.carriageReturn, true)
  | .lineFeed => (.control, true)
  | .control => (.control, true)
  | .extend => (.plain, false)
  | .joiner => (.plain, false)
  | .spacing => (.plain, false)
  | .regional => (.oddRegional, true)
  | .prepend => (.prepended, true)
  | .leadingJamo => (.leading, true)
  | .vowelJamo => (.vowel, true)
  | .openSyllable => (.vowel, true)
  | .trailingJamo => (.trailing, true)
  | .closedSyllable => (.trailing, true)
  | .pictographic => (.pictograph, true)

/-- The progress behind one more character, and whether it begins a new cluster.
A cluster ends behind a control character, goes on behind a prepended one, and
in both cases what the next character is does not matter any more. -/
def advance : Progress → Part → Progress × Bool
  | .carriageReturn, .lineFeed => (.plain, false)
  | .carriageReturn, _ => (.plain, true)
  | .control, _ => (.plain, true)
  | .leading, .leadingJamo => (.leading, false)
  | .leading, .vowelJamo => (.vowel, false)
  | .leading, .openSyllable => (.vowel, false)
  | .leading, .closedSyllable => (.trailing, false)
  | .vowel, .vowelJamo => (.vowel, false)
  | .vowel, .trailingJamo => (.trailing, false)
  | .trailing, .trailingJamo => (.trailing, false)
  | .pictograph, .extend => (.pictograph, false)
  | .pictograph, .joiner => (.joined, false)
  | .joined, .pictographic => (.pictograph, false)
  | .oddRegional, .regional => (.evenRegional, false)
  | .evenRegional, .regional => (.oddRegional, true)
  | .prepended, .carriageReturn => (.carriageReturn, true)
  | .prepended, .lineFeed => (.control, true)
  | .prepended, .control => (.control, true)
  | .prepended, _ => (.plain, false)
  | _, p => alone p

/-- Cut the characters behind a cluster in progress, whose characters so far
stand in reverse. -/
def cut (s : Progress) (cluster : List Char) : List Char → List (List Char)
  | [] => [cluster.reverse]
  | c :: cs =>
    match advance s (part c) with
    | (s, false) => cut s (c :: cluster) cs
    | (s, true) => cluster.reverse :: cut s [c] cs

end Cluster

/-- The grapheme clusters of a list of characters. -/
def clusters : List Char → List (List Char)
  | [] => []
  | c :: cs => Cluster.cut (Cluster.alone (Cluster.part c)).1 [c] cs

end Text
end ParseForest
