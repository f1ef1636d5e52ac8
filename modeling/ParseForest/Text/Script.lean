import ParseForest.Text.Runs

namespace ParseForest
namespace Text
namespace Script

/-!
# Scripts

The script that each code point is used in, from version 17.0 of the Unicode
character database.  Code points without a script have the value `-`.
-/

/-- The scripts by code point. -/
def table : Runs := .read "
0:Common 41:Latin 5B:Common 61:Latin 7B:Common AA:Latin AB:Common BA:Latin BB:Common C0:Latin
D7:Common D8:Latin F7:Common F8:Latin 2B9:Common 2E0:Latin 2E5:Common 2EA:Bopomofo 2EC:Common
300:Inherited 370:Greek 374:Common 375:Greek 378:- 37A:Greek 37E:Common 37F:Greek 380:-
384:Greek 385:Common 386:Greek 387:Common 388:Greek 38B:- 38C:Greek 38D:- 38E:Greek 3A2:-
3A3:Greek 3E2:Coptic 3F0:Greek 400:Cyrillic 485:Inherited 487:Cyrillic 530:- 531:Armenian 557:-
559:Armenian 58B:- 58D:Armenian 590:- 591:Hebrew 5C8:- 5D0:Hebrew 5EB:- 5EF:Hebrew 5F5:-
600:Arabic 605:Common 606:Arabic 60C:Common 60D:Arabic 61B:Common 61C:Arabic 61F:Common
620:Arabic 640:Common 641:Arabic 64B:Inherited 656:Arabic 670:Inherited 671:Arabic 6DD:Common
6DE:Arabic 700:Syriac 70E:- 70F:Syriac 74B:- 74D:Syriac 750:Arabic 780:Thaana 7B2:- 7C0:Nko
7FB:- 7FD:Nko 800:Samaritan 82E:- 830:Samaritan 83F:- 840:Mandaic 85C:- 85E:Mandaic 85F:-
860:Syriac 86B:- 870:Arabic 892:- 897:Arabic 8E2:Common 8E3:Arabic 900:Devanagari 951:Inherited
955:Devanagari 964:Common 966:Devanagari 980:Bengali 984:- 985:Bengali 98D:- 98F:Bengali 991:-
993:Bengali 9A9:- 9AA:Bengali 9B1:- 9B2:Bengali 9B3:- 9B6:Bengali 9BA:- 9BC:Bengali 9C5:-
9C7:Bengali 9C9:- 9CB:Bengali 9CF:- 9D7:Bengali 9D8:- 9DC:Bengali 9DE:- 9DF:Bengali 9E4:-
9E6:Bengali 9FF:- A01:Gurmukhi A04:- A05:Gurmukhi A0B:- A0F:Gurmukhi A11:- A13:Gurmukhi A29:-
A2A:Gurmukhi A31:- A32:Gurmukhi A34:- A35:Gurmukhi A37:- A38:Gurmukhi A3A:- A3C:Gurmukhi A3D:-
A3E:Gurmukhi A43:- A47:Gurmukhi A49:- A4B:Gurmukhi A4E:- A51:Gurmukhi A52:- A59:Gurmukhi A5D:-
A5E:Gurmukhi A5F:- A66:Gurmukhi A77:- A81:Gujarati A84:- A85:Gujarati A8E:- A8F:Gujarati A92:-
A93:Gujarati AA9:- AAA:Gujarati AB1:- AB2:Gujarati AB4:- AB5:Gujarati ABA:- ABC:Gujarati AC6:-
AC7:Gujarati ACA:- ACB:Gujarati ACE:- AD0:Gujarati AD1:- AE0:Gujarati AE4:- AE6:Gujarati AF2:-
AF9:Gujarati B00:- B01:Oriya B04:- B05:Oriya B0D:- B0F:Oriya B11:- B13:Oriya B29:- B2A:Oriya
B31:- B32:Oriya B34:- B35:Oriya B3A:- B3C:Oriya B45:- B47:Oriya B49:- B4B:Oriya B4E:- B55:Oriya
B58:- B5C:Oriya B5E:- B5F:Oriya B64:- B66:Oriya B78:- B82:Tamil B84:- B85:Tamil B8B:- B8E:Tamil
B91:- B92:Tamil B96:- B99:Tamil B9B:- B9C:Tamil B9D:- B9E:Tamil BA0:- BA3:Tamil BA5:- BA8:Tamil
BAB:- BAE:Tamil BBA:- BBE:Tamil BC3:- BC6:Tamil BC9:- BCA:Tamil BCE:- BD0:Tamil BD1:- BD7:Tamil
BD8:- BE6:Tamil BFB:- C00:Telugu C0D:- C0E:Telugu C11:- C12:Telugu C29:- C2A:Telugu C3A:-
C3C:Telugu C45:- C46:Telugu C49:- C4A:Telugu C4E:- C55:Telugu C57:- C58:Telugu C5B:- C5C:Telugu
C5E:- C60:Telugu C64:- C66:Telugu C70:- C77:Telugu C80:Kannada C8D:- C8E:Kannada C91:-
C92:Kannada CA9:- CAA:Kannada CB4:- CB5:Kannada CBA:- CBC:Kannada CC5:- CC6:Kannada CC9:-
CCA:Kannada CCE:- CD5:Kannada CD7:- CDC:Kannada CDF:- CE0:Kannada CE4:- CE6:Kannada CF0:-
CF1:Kannada CF4:- D00:Malayalam D0D:- D0E:Malayalam D11:- D12:Malayalam D45:- D46:Malayalam
D49:- D4A:Malayalam D50:- D54:Malayalam D64:- D66:Malayalam D80:- D81:Sinhala D84:- D85:Sinhala
D97:- D9A:Sinhala DB2:- DB3:Sinhala DBC:- DBD:Sinhala DBE:- DC0:Sinhala DC7:- DCA:Sinhala DCB:-
DCF:Sinhala DD5:- DD6:Sinhala DD7:- DD8:Sinhala DE0:- DE6:Sinhala DF0:- DF2:Sinhala DF5:-
E01:Thai E3B:- E3F:Common E40:Thai E5C:- E81:Lao E83:- E84:Lao E85:- E86:Lao E8B:- E8C:Lao EA4:-
EA5:Lao EA6:- EA7:Lao EBE:- EC0:Lao EC5:- EC6:Lao EC7:- EC8:Lao ECF:- ED0:Lao EDA:- EDC:Lao
EE0:- F00:Tibetan F48:- F49:Tibetan F6D:- F71:Tibetan F98:- F99:Tibetan FBD:- FBE:Tibetan FCD:-
FCE:Tibetan FD5:Common FD9:Tibetan FDB:- 1000:Myanmar 10A0:Georgian 10C6:- 10C7:Georgian 10C8:-
10CD:Georgian 10CE:- 10D0:Georgian 10FB:Common 10FC:Georgian 1100:Hangul 1200:Ethiopic 1249:-
124A:Ethiopic 124E:- 1250:Ethiopic 1257:- 1258:Ethiopic 1259:- 125A:Ethiopic 125E:-
1260:Ethiopic 1289:- 128A:Ethiopic 128E:- 1290:Ethiopic 12B1:- 12B2:Ethiopic 12B6:-
12B8:Ethiopic 12BF:- 12C0:Ethiopic 12C1:- 12C2:Ethiopic 12C6:- 12C8:Ethiopic 12D7:-
12D8:Ethiopic 1311:- 1312:Ethiopic 1316:- 1318:Ethiopic 135B:- 135D:Ethiopic 137D:-
1380:Ethiopic 139A:- 13A0:Cherokee 13F6:- 13F8:Cherokee 13FE:- 1400:Canadian_Aboriginal
1680:Ogham 169D:- 16A0:Runic 16EB:Common 16EE:Runic 16F9:- 1700:Tagalog 1716:- 171F:Tagalog
1720:Hanunoo 1735:Common 1737:- 1740:Buhid 1754:- 1760:Tagbanwa 176D:- 176E:Tagbanwa 1771:-
1772:Tagbanwa 1774:- 1780:Khmer 17DE:- 17E0:Khmer 17EA:- 17F0:Khmer 17FA:- 1800:Mongolian
1802:Common 1804:Mongolian 1805:Common 1806:Mongolian 181A:- 1820:Mongolian 1879:-
1880:Mongolian 18AB:- 18B0:Canadian_Aboriginal 18F6:- 1900:Limbu 191F:- 1920:Limbu 192C:-
1930:Limbu 193C:- 1940:Limbu 1941:- 1944:Limbu 1950:Tai_Le 196E:- 1970:Tai_Le 1975:-
1980:New_Tai_Lue 19AC:- 19B0:New_Tai_Lue 19CA:- 19D0:New_Tai_Lue 19DB:- 19DE:New_Tai_Lue
19E0:Khmer 1A00:Buginese 1A1C:- 1A1E:Buginese 1A20:Tai_Tham 1A5F:- 1A60:Tai_Tham 1A7D:-
1A7F:Tai_Tham 1A8A:- 1A90:Tai_Tham 1A9A:- 1AA0:Tai_Tham 1AAE:- 1AB0:Inherited 1ADE:-
1AE0:Inherited 1AEC:- 1B00:Balinese 1B4D:- 1B4E:Balinese 1B80:Sundanese 1BC0:Batak 1BF4:-
1BFC:Batak 1C00:Lepcha 1C38:- 1C3B:Lepcha 1C4A:- 1C4D:Lepcha 1C50:Ol_Chiki 1C80:Cyrillic 1C8B:-
1C90:Georgian 1CBB:- 1CBD:Georgian 1CC0:Sundanese 1CC8:- 1CD0:Inherited 1CD3:Common
1CD4:Inherited 1CE1:Common 1CE2:Inherited 1CE9:Common 1CED:Inherited 1CEE:Common 1CF4:Inherited
1CF5:Common 1CF8:Inherited 1CFA:Common 1CFB:- 1D00:Latin 1D26:Greek 1D2B:Cyrillic 1D2C:Latin
1D5D:Greek 1D62:Latin 1D66:Greek 1D6B:Latin 1D78:Cyrillic 1D79:Latin 1DBF:Greek 1DC0:Inherited
1E00:Latin 1F00:Greek 1F16:- 1F18:Greek 1F1E:- 1F20:Greek 1F46:- 1F48:Greek 1F4E:- 1F50:Greek
1F58:- 1F59:Greek 1F5A:- 1F5B:Greek 1F5C:- 1F5D:Greek 1F5E:- 1F5F:Greek 1F7E:- 1F80:Greek 1FB5:-
1FB6:Greek 1FC5:- 1FC6:Greek 1FD4:- 1FD6:Greek 1FDC:- 1FDD:Greek 1FF0:- 1FF2:Greek 1FF5:-
1FF6:Greek 1FFF:- 2000:Common 200C:Inherited 200E:Common 2065:- 2066:Common 2071:Latin 2072:-
2074:Common 207F:Latin 2080:Common 208F:- 2090:Latin 209D:- 20A0:Common 20C2:- 20D0:Inherited
20F1:- 2100:Common 2126:Greek 2127:Common 212A:Latin 212C:Common 2132:Latin 2133:Common
214E:Latin 214F:Common 2160:Latin 2189:Common 218C:- 2190:Common 242A:- 2440:Common 244B:-
2460:Common 2800:Braille 2900:Common 2B74:- 2B76:Common 2C00:Glagolitic 2C60:Latin 2C80:Coptic
2CF4:- 2CF9:Coptic 2D00:Georgian 2D26:- 2D27:Georgian 2D28:- 2D2D:Georgian 2D2E:- 2D30:Tifinagh
2D68:- 2D6F:Tifinagh 2D71:- 2D7F:Tifinagh 2D80:Ethiopic 2D97:- 2DA0:Ethiopic 2DA7:-
2DA8:Ethiopic 2DAF:- 2DB0:Ethiopic 2DB7:- 2DB8:Ethiopic 2DBF:- 2DC0:Ethiopic 2DC7:-
2DC8:Ethiopic 2DCF:- 2DD0:Ethiopic 2DD7:- 2DD8:Ethiopic 2DDF:- 2DE0:Cyrillic 2E00:Common 2E5E:-
2E80:Han 2E9A:- 2E9B:Han 2EF4:- 2F00:Han 2FD6:- 2FF0:Common 3005:Han 3006:Common 3007:Han
3008:Common 3021:Han 302A:Inherited 302E:Hangul 3030:Common 3038:Han 303C:Common 3040:-
3041:Hiragana 3097:- 3099:Inherited 309B:Common 309D:Hiragana 30A0:Common 30A1:Katakana
30FB:Common 30FD:Katakana 3100:- 3105:Bopomofo 3130:- 3131:Hangul 318F:- 3190:Common
31A0:Bopomofo 31C0:Common 31E6:- 31EF:Common 31F0:Katakana 3200:Hangul 321F:- 3220:Common
3260:Hangul 327F:Common 32D0:Katakana 32FF:Common 3300:Katakana 3358:Common 3400:Han 4DC0:Common
4E00:Han A000:Yi A48D:- A490:Yi A4C7:- A4D0:Lisu A500:Vai A62C:- A640:Cyrillic A6A0:Bamum A6F8:-
A700:Common A722:Latin A788:Common A78B:Latin A7DD:- A7F1:Latin A800:Syloti_Nagri A82D:-
A830:Common A83A:- A840:Phags_Pa A878:- A880:Saurashtra A8C6:- A8CE:Saurashtra A8DA:-
A8E0:Devanagari A900:Kayah_Li A92E:Common A92F:Kayah_Li A930:Rejang A954:- A95F:Rejang
A960:Hangul A97D:- A980:Javanese A9CE:- A9CF:Common A9D0:Javanese A9DA:- A9DE:Javanese
A9E0:Myanmar A9FF:- AA00:Cham AA37:- AA40:Cham AA4E:- AA50:Cham AA5A:- AA5C:Cham AA60:Myanmar
AA80:Tai_Viet AAC3:- AADB:Tai_Viet AAE0:Meetei_Mayek AAF7:- AB01:Ethiopic AB07:- AB09:Ethiopic
AB0F:- AB11:Ethiopic AB17:- AB20:Ethiopic AB27:- AB28:Ethiopic AB2F:- AB30:Latin AB5B:Common
AB5C:Latin AB65:Greek AB66:Latin AB6A:Common AB6C:- AB70:Cherokee ABC0:Meetei_Mayek ABEE:-
ABF0:Meetei_Mayek ABFA:- AC00:Hangul D7A4:- D7B0:Hangul D7C7:- D7CB:Hangul D7FC:- F900:Han
FA6E:- FA70:Han FADA:- FB00:Latin FB07:- FB13:Armenian FB18:- FB1D:Hebrew FB37:- FB38:Hebrew
FB3D:- FB3E:Hebrew FB3F:- FB40:Hebrew FB42:- FB43:Hebrew FB45:- FB46:Hebrew FB50:Arabic
FD3E:Common FD40:Arabic FDD0:- FDF0:Arabic FE00:Inherited FE10:Common FE1A:- FE20:Inherited
FE2E:Cyrillic FE30:Common FE53:- FE54:Common FE67:- FE68:Common FE6C:- FE70:Arabic FE75:-
FE76:Arabic FEFD:- FEFF:Common FF00:- FF01:Common FF21:Latin FF3B:Common FF41:Latin FF5B:Common
FF66:Katakana FF70:Common FF71:Katakana FF9E:Common FFA0:Hangul FFBF:- FFC2:Hangul FFC8:-
FFCA:Hangul FFD0:- FFD2:Hangul FFD8:- FFDA:Hangul FFDD:- FFE0:Common FFE7:- FFE8:Common FFEF:-
FFF9:Common FFFE:- 10000:Linear_B 1000C:- 1000D:Linear_B 10027:- 10028:Linear_B 1003B:-
1003C:Linear_B 1003E:- 1003F:Linear_B 1004E:- 10050:Linear_B 1005E:- 10080:Linear_B 100FB:-
10100:Common 10103:- 10107:Common 10134:- 10137:Common 10140:Greek 1018F:- 10190:Common 1019D:-
101A0:Greek 101A1:- 101D0:Common 101FD:Inherited 101FE:- 10280:Lycian 1029D:- 102A0:Carian
102D1:- 102E0:Inherited 102E1:Common 102FC:- 10300:Old_Italic 10324:- 1032D:Old_Italic
10330:Gothic 1034B:- 10350:Old_Permic 1037B:- 10380:Ugaritic 1039E:- 1039F:Ugaritic
103A0:Old_Persian 103C4:- 103C8:Old_Persian 103D6:- 10400:Deseret 10450:Shavian 10480:Osmanya
1049E:- 104A0:Osmanya 104AA:- 104B0:Osage 104D4:- 104D8:Osage 104FC:- 10500:Elbasan 10528:-
10530:Caucasian_Albanian 10564:- 1056F:Caucasian_Albanian 10570:Vithkuqi 1057B:- 1057C:Vithkuqi
1058B:- 1058C:Vithkuqi 10593:- 10594:Vithkuqi 10596:- 10597:Vithkuqi 105A2:- 105A3:Vithkuqi
105B2:- 105B3:Vithkuqi 105BA:- 105BB:Vithkuqi 105BD:- 105C0:Todhri 105F4:- 10600:Linear_A
10737:- 10740:Linear_A 10756:- 10760:Linear_A 10768:- 10780:Latin 10786:- 10787:Latin 107B1:-
107B2:Latin 107BB:- 10800:Cypriot 10806:- 10808:Cypriot 10809:- 1080A:Cypriot 10836:-
10837:Cypriot 10839:- 1083C:Cypriot 1083D:- 1083F:Cypriot 10840:Imperial_Aramaic 10856:-
10857:Imperial_Aramaic 10860:Palmyrene 10880:Nabataean 1089F:- 108A7:Nabataean 108B0:-
108E0:Hatran 108F3:- 108F4:Hatran 108F6:- 108FB:Hatran 10900:Phoenician 1091C:- 1091F:Phoenician
10920:Lydian 1093A:- 1093F:Lydian 10940:Sidetic 1095A:- 10980:Meroitic_Hieroglyphs
109A0:Meroitic_Cursive 109B8:- 109BC:Meroitic_Cursive 109D0:- 109D2:Meroitic_Cursive
10A00:Kharoshthi 10A04:- 10A05:Kharoshthi 10A07:- 10A0C:Kharoshthi 10A14:- 10A15:Kharoshthi
10A18:- 10A19:Kharoshthi 10A36:- 10A38:Kharoshthi 10A3B:- 10A3F:Kharoshthi 10A49:-
10A50:Kharoshthi 10A59:- 10A60:Old_South_Arabian 10A80:Old_North_Arabian 10AA0:-
10AC0:Manichaean 10AE7:- 10AEB:Manichaean 10AF7:- 10B00:Avestan 10B36:- 10B39:Avestan
10B40:Inscriptional_Parthian 10B56:- 10B58:Inscriptional_Parthian 10B60:Inscriptional_Pahlavi
10B73:- 10B78:Inscriptional_Pahlavi 10B80:Psalter_Pahlavi 10B92:- 10B99:Psalter_Pahlavi 10B9D:-
10BA9:Psalter_Pahlavi 10BB0:- 10C00:Old_Turkic 10C49:- 10C80:Old_Hungarian 10CB3:-
10CC0:Old_Hungarian 10CF3:- 10CFA:Old_Hungarian 10D00:Hanifi_Rohingya 10D28:-
10D30:Hanifi_Rohingya 10D3A:- 10D40:Garay 10D66:- 10D69:Garay 10D86:- 10D8E:Garay 10D90:-
10E60:Arabic 10E7F:- 10E80:Yezidi 10EAA:- 10EAB:Yezidi 10EAE:- 10EB0:Yezidi 10EB2:- 10EC2:Arabic
10EC8:- 10ED0:Arabic 10ED9:- 10EFA:Arabic 10F00:Old_Sogdian 10F28:- 10F30:Sogdian 10F5A:-
10F70:Old_Uyghur 10F8A:- 10FB0:Chorasmian 10FCC:- 10FE0:Elymaic 10FF7:- 11000:Brahmi 1104E:-
11052:Brahmi 11076:- 1107F:Brahmi 11080:Kaithi 110C3:- 110CD:Kaithi 110CE:- 110D0:Sora_Sompeng
110E9:- 110F0:Sora_Sompeng 110FA:- 11100:Chakma 11135:- 11136:Chakma 11148:- 11150:Mahajani
11177:- 11180:Sharada 111E0:- 111E1:Sinhala 111F5:- 11200:Khojki 11212:- 11213:Khojki 11242:-
11280:Multani 11287:- 11288:Multani 11289:- 1128A:Multani 1128E:- 1128F:Multani 1129E:-
1129F:Multani 112AA:- 112B0:Khudawadi 112EB:- 112F0:Khudawadi 112FA:- 11300:Grantha 11304:-
11305:Grantha 1130D:- 1130F:Grantha 11311:- 11313:Grantha 11329:- 1132A:Grantha 11331:-
11332:Grantha 11334:- 11335:Grantha 1133A:- 1133B:Inherited 1133C:Grantha 11345:- 11347:Grantha
11349:- 1134B:Grantha 1134E:- 11350:Grantha 11351:- 11357:Grantha 11358:- 1135D:Grantha 11364:-
11366:Grantha 1136D:- 11370:Grantha 11375:- 11380:Tulu_Tigalari 1138A:- 1138B:Tulu_Tigalari
1138C:- 1138E:Tulu_Tigalari 1138F:- 11390:Tulu_Tigalari 113B6:- 113B7:Tulu_Tigalari 113C1:-
113C2:Tulu_Tigalari 113C3:- 113C5:Tulu_Tigalari 113C6:- 113C7:Tulu_Tigalari 113CB:-
113CC:Tulu_Tigalari 113D6:- 113D7:Tulu_Tigalari 113D9:- 113E1:Tulu_Tigalari 113E3:- 11400:Newa
1145C:- 1145D:Newa 11462:- 11480:Tirhuta 114C8:- 114D0:Tirhuta 114DA:- 11580:Siddham 115B6:-
115B8:Siddham 115DE:- 11600:Modi 11645:- 11650:Modi 1165A:- 11660:Mongolian 1166D:- 11680:Takri
116BA:- 116C0:Takri 116CA:- 116D0:Myanmar 116E4:- 11700:Ahom 1171B:- 1171D:Ahom 1172C:-
11730:Ahom 11747:- 11800:Dogra 1183C:- 118A0:Warang_Citi 118F3:- 118FF:Warang_Citi
11900:Dives_Akuru 11907:- 11909:Dives_Akuru 1190A:- 1190C:Dives_Akuru 11914:- 11915:Dives_Akuru
11917:- 11918:Dives_Akuru 11936:- 11937:Dives_Akuru 11939:- 1193B:Dives_Akuru 11947:-
11950:Dives_Akuru 1195A:- 119A0:Nandinagari 119A8:- 119AA:Nandinagari 119D8:- 119DA:Nandinagari
119E5:- 11A00:Zanabazar_Square 11A48:- 11A50:Soyombo 11AA3:- 11AB0:Canadian_Aboriginal
11AC0:Pau_Cin_Hau 11AF9:- 11B00:Devanagari 11B0A:- 11B60:Sharada 11B68:- 11BC0:Sunuwar 11BE2:-
11BF0:Sunuwar 11BFA:- 11C00:Bhaiksuki 11C09:- 11C0A:Bhaiksuki 11C37:- 11C38:Bhaiksuki 11C46:-
11C50:Bhaiksuki 11C6D:- 11C70:Marchen 11C90:- 11C92:Marchen 11CA8:- 11CA9:Marchen 11CB7:-
11D00:Masaram_Gondi 11D07:- 11D08:Masaram_Gondi 11D0A:- 11D0B:Masaram_Gondi 11D37:-
11D3A:Masaram_Gondi 11D3B:- 11D3C:Masaram_Gondi 11D3E:- 11D3F:Masaram_Gondi 11D48:-
11D50:Masaram_Gondi 11D5A:- 11D60:Gunjala_Gondi 11D66:- 11D67:Gunjala_Gondi 11D69:-
11D6A:Gunjala_Gondi 11D8F:- 11D90:Gunjala_Gondi 11D92:- 11D93:Gunjala_Gondi 11D99:-
11DA0:Gunjala_Gondi 11DAA:- 11DB0:Tolong_Siki 11DDC:- 11DE0:Tolong_Siki 11DEA:- 11EE0:Makasar
11EF9:- 11F00:Kawi 11F11:- 11F12:Kawi 11F3B:- 11F3E:Kawi 11F5B:- 11FB0:Lisu 11FB1:- 11FC0:Tamil
11FF2:- 11FFF:Tamil 12000:Cuneiform 1239A:- 12400:Cuneiform 1246F:- 12470:Cuneiform 12475:-
12480:Cuneiform 12544:- 12F90:Cypro_Minoan 12FF3:- 13000:Egyptian_Hieroglyphs 13456:-
13460:Egyptian_Hieroglyphs 143FB:- 14400:Anatolian_Hieroglyphs 14647:- 16100:Gurung_Khema
1613A:- 16800:Bamum 16A39:- 16A40:Mro 16A5F:- 16A60:Mro 16A6A:- 16A6E:Mro 16A70:Tangsa 16ABF:-
16AC0:Tangsa 16ACA:- 16AD0:Bassa_Vah 16AEE:- 16AF0:Bassa_Vah 16AF6:- 16B00:Pahawh_Hmong 16B46:-
16B50:Pahawh_Hmong 16B5A:- 16B5B:Pahawh_Hmong 16B62:- 16B63:Pahawh_Hmong 16B78:-
16B7D:Pahawh_Hmong 16B90:- 16D40:Kirat_Rai 16D7A:- 16E40:Medefaidrin 16E9B:- 16EA0:Beria_Erfe
16EB9:- 16EBB:Beria_Erfe 16ED4:- 16F00:Miao 16F4B:- 16F4F:Miao 16F88:- 16F8F:Miao 16FA0:-
16FE0:Tangut 16FE1:Nushu 16FE2:Han 16FE4:Khitan_Small_Script 16FE5:- 16FF0:Han 16FF7:-
17000:Tangut 18B00:Khitan_Small_Script 18CD6:- 18CFF:Khitan_Small_Script 18D00:Tangut 18D1F:-
18D80:Tangut 18DF3:- 1AFF0:Katakana 1AFF4:- 1AFF5:Katakana 1AFFC:- 1AFFD:Katakana 1AFFF:-
1B000:Katakana 1B001:Hiragana 1B120:Katakana 1B123:- 1B132:Hiragana 1B133:- 1B150:Hiragana
1B153:- 1B155:Katakana 1B156:- 1B164:Katakana 1B168:- 1B170:Nushu 1B2FC:- 1BC00:Duployan 1BC6B:-
1BC70:Duployan 1BC7D:- 1BC80:Duployan 1BC89:- 1BC90:Duployan 1BC9A:- 1BC9C:Duployan 1BCA0:Common
1BCA4:- 1CC00:Common 1CCFD:- 1CD00:Common 1CEB4:- 1CEBA:Common 1CED1:- 1CEE0:Common 1CEF1:-
1CF00:Inherited 1CF2E:- 1CF30:Inherited 1CF47:- 1CF50:Common 1CFC4:- 1D000:Common 1D0F6:-
1D100:Common 1D127:- 1D129:Common 1D167:Inherited 1D16A:Common 1D17B:Inherited 1D183:Common
1D185:Inherited 1D18C:Common 1D1AA:Inherited 1D1AE:Common 1D1EB:- 1D200:Greek 1D246:-
1D2C0:Common 1D2D4:- 1D2E0:Common 1D2F4:- 1D300:Common 1D357:- 1D360:Common 1D379:- 1D400:Common
1D455:- 1D456:Common 1D49D:- 1D49E:Common 1D4A0:- 1D4A2:Common 1D4A3:- 1D4A5:Common 1D4A7:-
1D4A9:Common 1D4AD:- 1D4AE:Common 1D4BA:- 1D4BB:Common 1D4BC:- 1D4BD:Common 1D4C4:- 1D4C5:Common
1D506:- 1D507:Common 1D50B:- 1D50D:Common 1D515:- 1D516:Common 1D51D:- 1D51E:Common 1D53A:-
1D53B:Common 1D53F:- 1D540:Common 1D545:- 1D546:Common 1D547:- 1D54A:Common 1D551:- 1D552:Common
1D6A6:- 1D6A8:Common 1D7CC:- 1D7CE:Common 1D800:SignWriting 1DA8C:- 1DA9B:SignWriting 1DAA0:-
1DAA1:SignWriting 1DAB0:- 1DF00:Latin 1DF1F:- 1DF25:Latin 1DF2B:- 1E000:Glagolitic 1E007:-
1E008:Glagolitic 1E019:- 1E01B:Glagolitic 1E022:- 1E023:Glagolitic 1E025:- 1E026:Glagolitic
1E02B:- 1E030:Cyrillic 1E06E:- 1E08F:Cyrillic 1E090:- 1E100:Nyiakeng_Puachue_Hmong 1E12D:-
1E130:Nyiakeng_Puachue_Hmong 1E13E:- 1E140:Nyiakeng_Puachue_Hmong 1E14A:-
1E14E:Nyiakeng_Puachue_Hmong 1E150:- 1E290:Toto 1E2AF:- 1E2C0:Wancho 1E2FA:- 1E2FF:Wancho
1E300:- 1E4D0:Nag_Mundari 1E4FA:- 1E5D0:Ol_Onal 1E5FB:- 1E5FF:Ol_Onal 1E600:- 1E6C0:Tai_Yo
1E6DF:- 1E6E0:Tai_Yo 1E6F6:- 1E6FE:Tai_Yo 1E700:- 1E7E0:Ethiopic 1E7E7:- 1E7E8:Ethiopic 1E7EC:-
1E7ED:Ethiopic 1E7EF:- 1E7F0:Ethiopic 1E7FF:- 1E800:Mende_Kikakui 1E8C5:- 1E8C7:Mende_Kikakui
1E8D7:- 1E900:Adlam 1E94C:- 1E950:Adlam 1E95A:- 1E95E:Adlam 1E960:- 1EC71:Common 1ECB5:-
1ED01:Common 1ED3E:- 1EE00:Arabic 1EE04:- 1EE05:Arabic 1EE20:- 1EE21:Arabic 1EE23:- 1EE24:Arabic
1EE25:- 1EE27:Arabic 1EE28:- 1EE29:Arabic 1EE33:- 1EE34:Arabic 1EE38:- 1EE39:Arabic 1EE3A:-
1EE3B:Arabic 1EE3C:- 1EE42:Arabic 1EE43:- 1EE47:Arabic 1EE48:- 1EE49:Arabic 1EE4A:- 1EE4B:Arabic
1EE4C:- 1EE4D:Arabic 1EE50:- 1EE51:Arabic 1EE53:- 1EE54:Arabic 1EE55:- 1EE57:Arabic 1EE58:-
1EE59:Arabic 1EE5A:- 1EE5B:Arabic 1EE5C:- 1EE5D:Arabic 1EE5E:- 1EE5F:Arabic 1EE60:- 1EE61:Arabic
1EE63:- 1EE64:Arabic 1EE65:- 1EE67:Arabic 1EE6B:- 1EE6C:Arabic 1EE73:- 1EE74:Arabic 1EE78:-
1EE79:Arabic 1EE7D:- 1EE7E:Arabic 1EE7F:- 1EE80:Arabic 1EE8A:- 1EE8B:Arabic 1EE9C:- 1EEA1:Arabic
1EEA4:- 1EEA5:Arabic 1EEAA:- 1EEAB:Arabic 1EEBC:- 1EEF0:Arabic 1EEF2:- 1F000:Common 1F02C:-
1F030:Common 1F094:- 1F0A0:Common 1F0AF:- 1F0B1:Common 1F0C0:- 1F0C1:Common 1F0D0:- 1F0D1:Common
1F0F6:- 1F100:Common 1F1AE:- 1F1E6:Common 1F200:Hiragana 1F201:Common 1F203:- 1F210:Common
1F23C:- 1F240:Common 1F249:- 1F250:Common 1F252:- 1F260:Common 1F266:- 1F300:Common 1F6D9:-
1F6DC:Common 1F6ED:- 1F6F0:Common 1F6FD:- 1F700:Common 1F7DA:- 1F7E0:Common 1F7EC:- 1F7F0:Common
1F7F1:- 1F800:Common 1F80C:- 1F810:Common 1F848:- 1F850:Common 1F85A:- 1F860:Common 1F888:-
1F890:Common 1F8AE:- 1F8B0:Common 1F8BC:- 1F8C0:Common 1F8C2:- 1F8D0:Common 1F8D9:- 1F900:Common
1FA58:- 1FA60:Common 1FA6E:- 1FA70:Common 1FA7D:- 1FA80:Common 1FA8B:- 1FA8E:Common 1FAC7:-
1FAC8:Common 1FAC9:- 1FACD:Common 1FADD:- 1FADF:Common 1FAEB:- 1FAEF:Common 1FAF9:- 1FB00:Common
1FB93:- 1FB94:Common 1FBFB:- 20000:Han 2A6E0:- 2A700:Han 2B81E:- 2B820:Han 2CEAE:- 2CEB0:Han
2EBE1:- 2EBF0:Han 2EE5E:- 2F800:Han 2FA1E:- 30000:Han 3134B:- 31350:Han 3347A:- E0001:Common
E0002:- E0020:Common E0080:- E0100:Inherited E01F0:-"

def names : List String :=
  table.values.filter (· ≠ "-")

def matchesCode (name : String) (code : Nat) : Bool :=
  name ≠ "-" && table.value code = name

end Script
end Text
end ParseForest
