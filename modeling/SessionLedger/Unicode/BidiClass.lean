import SessionLedger.Unicode.Steps
/-! The bidirectional class of a character. -/
namespace SessionLedger.Unicode

/-- The classes that the rules for labels name, and one for all others. -/
inductive BidiClass where
  | leftToRight
  | rightToLeft
  | arabicLetter
  | arabicNumber
  | europeanNumber
  | europeanSeparator
  | europeanTerminator
  | commonSeparator
  | nonspacingMark
  | boundaryNeutral
  | otherNeutral
  | other
  deriving DecidableEq, Repr

/-- The class that a letter of the table below stands for. -/
def BidiClass.ofLetter : List Char → BidiClass
  | ['L'] => .leftToRight
  | ['R'] => .rightToLeft
  | ['A'] => .arabicLetter
  | ['N'] => .arabicNumber
  | ['E'] => .europeanNumber
  | ['S'] => .europeanSeparator
  | ['T'] => .europeanTerminator
  | ['C'] => .commonSeparator
  | ['M'] => .nonspacingMark
  | ['B'] => .boundaryNeutral
  | ['O'] => .otherNeutral
  | _ => .other

/-- Where characters of each class begin; characters that are not assigned count as left to
right. -/
def bidiSteps : Steps BidiClass := Steps.read BidiClass.ofLetter
  "0=B 9=X E=B 1C=X 21=O 23=T 26=O 2B=S 2C=C 2D=S 2E=C 30=E 3A=C 3B=O 41=L 5B=O 61=L 7B=O 7F=B 85=X
86=B A0=C A1=O A2=T A6=O AA=L AB=O AD=B AE=O B0=T B2=E B4=O B5=L B6=O B9=E BA=L BB=O C0=L D7=O
D8=L F7=O F8=L 2B9=O 2BB=L 2C2=O 2D0=L 2D2=O 2E0=L 2E5=O 2EE=L 2EF=O 300=M 370=L 374=O 376=L
37E=O 37F=L 384=O 386=L 387=O 388=L 3F6=O 3F7=L 483=M 48A=L 58A=O 58B=L 58D=O 58F=T 590=L 591=M
5BE=R 5BF=M 5C0=R 5C1=M 5C3=R 5C4=M 5C6=R 5C7=M 5C8=L 5D0=R 5EB=L 5EF=R 5F5=L 600=N 606=O 608=A
609=T 60B=A 60C=C 60D=A 60E=O 610=M 61B=A 64B=M 660=N 66A=T 66B=N 66D=A 670=M 671=A 6D6=M 6DD=N
6DE=O 6DF=M 6E5=A 6E7=M 6E9=O 6EA=M 6EE=A 6F0=E 6FA=A 70E=L 70F=A 711=M 712=A 730=M 74B=L 74D=A
7A6=M 7B1=A 7B2=L 7C0=R 7EB=M 7F4=R 7F6=O 7FA=R 7FB=L 7FD=M 7FE=R 816=M 81A=R 81B=M 824=R 825=M
828=R 829=M 82E=L 830=R 83F=L 840=R 859=M 85C=L 85E=R 85F=L 860=A 86B=L 870=A 88F=L 890=N 892=L
898=M 8A0=A 8CA=M 8E2=N 8E3=M 903=L 93A=M 93B=L 93C=M 93D=L 941=M 949=L 94D=M 94E=L 951=M 958=L
962=M 964=L 981=M 982=L 9BC=M 9BD=L 9C1=M 9C5=L 9CD=M 9CE=L 9E2=M 9E4=L 9F2=T 9F4=L 9FB=T 9FC=L
9FE=M 9FF=L A01=M A03=L A3C=M A3D=L A41=M A43=L A47=M A49=L A4B=M A4E=L A51=M A52=L A70=M A72=L
A75=M A76=L A81=M A83=L ABC=M ABD=L AC1=M AC6=L AC7=M AC9=L ACD=M ACE=L AE2=M AE4=L AF1=T AF2=L
AFA=M B00=L B01=M B02=L B3C=M B3D=L B3F=M B40=L B41=M B45=L B4D=M B4E=L B55=M B57=L B62=M B64=L
B82=M B83=L BC0=M BC1=L BCD=M BCE=L BF3=O BF9=T BFA=O BFB=L C00=M C01=L C04=M C05=L C3C=M C3D=L
C3E=M C41=L C46=M C49=L C4A=M C4E=L C55=M C57=L C62=M C64=L C78=O C7F=L C81=M C82=L CBC=M CBD=L
CCC=M CCE=L CE2=M CE4=L D00=M D02=L D3B=M D3D=L D41=M D45=L D4D=M D4E=L D62=M D64=L D81=M D82=L
DCA=M DCB=L DD2=M DD5=L DD6=M DD7=L E31=M E32=L E34=M E3B=L E3F=T E40=L E47=M E4F=L EB1=M EB2=L
EB4=M EBD=L EC8=M ECF=L F18=M F1A=L F35=M F36=L F37=M F38=L F39=M F3A=O F3E=L F71=M F7F=L F80=M
F85=L F86=M F88=L F8D=M F98=L F99=M FBD=L FC6=M FC7=L 102D=M 1031=L 1032=M 1038=L 1039=M 103B=L
103D=M 103F=L 1058=M 105A=L 105E=M 1061=L 1071=M 1075=L 1082=M 1083=L 1085=M 1087=L 108D=M
108E=L 109D=M 109E=L 135D=M 1360=L 1390=O 139A=L 1400=O 1401=L 1680=X 1681=L 169B=O 169D=L
1712=M 1715=L 1732=M 1734=L 1752=M 1754=L 1772=M 1774=L 17B4=M 17B6=L 17B7=M 17BE=L 17C6=M
17C7=L 17C9=M 17D4=L 17DB=T 17DC=L 17DD=M 17DE=L 17F0=O 17FA=L 1800=O 180B=M 180E=B 180F=M
1810=L 1885=M 1887=L 18A9=M 18AA=L 1920=M 1923=L 1927=M 1929=L 1932=M 1933=L 1939=M 193C=L
1940=O 1941=L 1944=O 1946=L 19DE=O 1A00=L 1A17=M 1A19=L 1A1B=M 1A1C=L 1A56=M 1A57=L 1A58=M
1A5F=L 1A60=M 1A61=L 1A62=M 1A63=L 1A65=M 1A6D=L 1A73=M 1A7D=L 1A7F=M 1A80=L 1AB0=M 1ACF=L
1B00=M 1B04=L 1B34=M 1B35=L 1B36=M 1B3B=L 1B3C=M 1B3D=L 1B42=M 1B43=L 1B6B=M 1B74=L 1B80=M
1B82=L 1BA2=M 1BA6=L 1BA8=M 1BAA=L 1BAB=M 1BAE=L 1BE6=M 1BE7=L 1BE8=M 1BEA=L 1BED=M 1BEE=L
1BEF=M 1BF2=L 1C2C=M 1C34=L 1C36=M 1C38=L 1CD0=M 1CD3=L 1CD4=M 1CE1=L 1CE2=M 1CE9=L 1CED=M
1CEE=L 1CF4=M 1CF5=L 1CF8=M 1CFA=L 1DC0=M 1E00=L 1FBD=O 1FBE=L 1FBF=O 1FC2=L 1FCD=O 1FD0=L
1FDD=O 1FE0=L 1FED=O 1FF0=L 1FFD=O 1FFF=L 2000=X 200B=B 200E=L 200F=R 2010=O 2028=X 202F=C
2030=T 2035=O 2044=C 2045=O 205F=X 2060=B 2065=L 2066=X 206A=B 2070=E 2071=L 2074=E 207A=S
207C=O 207F=L 2080=E 208A=S 208C=O 208F=L 20A0=T 20C1=L 20D0=M 20F1=L 2100=O 2102=L 2103=O
2107=L 2108=O 210A=L 2114=O 2115=L 2116=O 2119=L 211E=O 2124=L 2125=O 2126=L 2127=O 2128=L
2129=O 212A=L 212E=T 212F=L 213A=O 213C=L 2140=O 2145=L 214A=O 214E=L 2150=O 2160=L 2189=O
218C=L 2190=O 2212=S 2213=T 2214=O 2336=L 237B=O 2395=L 2396=O 2427=L 2440=O 244B=L 2460=O
2488=E 249C=L 24EA=O 26AC=L 26AD=O 2800=L 2900=O 2B74=L 2B76=O 2B96=L 2B97=O 2C00=L 2CE5=O
2CEB=L 2CEF=M 2CF2=L 2CF9=O 2D00=L 2D7F=M 2D80=L 2DE0=M 2E00=O 2E5E=L 2E80=O 2E9A=L 2E9B=O
2EF4=L 2F00=O 2FD6=L 2FF0=O 2FFC=L 3000=X 3001=O 3005=L 3008=O 3021=L 302A=M 302E=L 3030=O
3031=L 3036=O 3038=L 303D=O 3040=L 3099=M 309B=O 309D=L 30A0=O 30A1=L 30FB=O 30FC=L 31C0=O
31E4=L 321D=O 321F=L 3250=O 3260=L 327C=O 327F=L 32B1=O 32C0=L 32CC=O 32D0=L 3377=O 337B=L
33DE=O 33E0=L 33FF=O 3400=L 4DC0=O 4E00=L A490=O A4C7=L A60D=O A610=L A66F=M A673=O A674=M
A67E=O A680=L A69E=M A6A0=L A6F0=M A6F2=L A700=O A722=L A788=O A789=L A802=M A803=L A806=M
A807=L A80B=M A80C=L A825=M A827=L A828=O A82C=M A82D=L A838=T A83A=L A874=O A878=L A8C4=M
A8C6=L A8E0=M A8F2=L A8FF=M A900=L A926=M A92E=L A947=M A952=L A980=M A983=L A9B3=M A9B4=L
A9B6=M A9BA=L A9BC=M A9BE=L A9E5=M A9E6=L AA29=M AA2F=L AA31=M AA33=L AA35=M AA37=L AA43=M
AA44=L AA4C=M AA4D=L AA7C=M AA7D=L AAB0=M AAB1=L AAB2=M AAB5=L AAB7=M AAB9=L AABE=M AAC0=L
AAC1=M AAC2=L AAEC=M AAEE=L AAF6=M AAF7=L AB6A=O AB6C=L ABE5=M ABE6=L ABE8=M ABE9=L ABED=M
ABEE=L FB1D=R FB1E=M FB1F=R FB29=S FB2A=R FB37=L FB38=R FB3D=L FB3E=R FB3F=L FB40=R FB42=L
FB43=R FB45=L FB46=R FB50=A FBC3=L FBD3=A FD3E=O FD50=A FD90=L FD92=A FDC8=L FDCF=O FDD0=L
FDF0=A FDFD=O FE00=M FE10=O FE1A=L FE20=M FE30=O FE50=C FE51=O FE52=C FE53=L FE54=O FE55=C
FE56=O FE5F=T FE60=O FE62=S FE64=O FE67=L FE68=O FE69=T FE6B=O FE6C=L FE70=A FE75=L FE76=A
FEFD=L FEFF=B FF00=L FF01=O FF03=T FF06=O FF0B=S FF0C=C FF0D=S FF0E=C FF10=E FF1A=C FF1B=O
FF21=L FF3B=O FF41=L FF5B=O FF66=L FFE0=T FFE2=O FFE5=T FFE7=L FFE8=O FFEF=L FFF9=O FFFE=L
10101=O 10102=L 10140=O 1018D=L 10190=O 1019D=L 101A0=O 101A1=L 101FD=M 101FE=L 102E0=M 102E1=E
102FC=L 10376=M 1037B=L 10800=R 10806=L 10808=R 10809=L 1080A=R 10836=L 10837=R 10839=L 1083C=R
1083D=L 1083F=R 10856=L 10857=R 1089F=L 108A7=R 108B0=L 108E0=R 108F3=L 108F4=R 108F6=L 108FB=R
1091C=L 1091F=O 10920=R 1093A=L 1093F=R 10940=L 10980=R 109B8=L 109BC=R 109D0=L 109D2=R 10A01=M
10A04=L 10A05=M 10A07=L 10A0C=M 10A10=R 10A14=L 10A15=R 10A18=L 10A19=R 10A36=L 10A38=M 10A3B=L
10A3F=M 10A40=R 10A49=L 10A50=R 10A59=L 10A60=R 10AA0=L 10AC0=R 10AE5=M 10AE7=L 10AEB=R 10AF7=L
10B00=R 10B36=L 10B39=O 10B40=R 10B56=L 10B58=R 10B73=L 10B78=R 10B92=L 10B99=R 10B9D=L 10BA9=R
10BB0=L 10C00=R 10C49=L 10C80=R 10CB3=L 10CC0=R 10CF3=L 10CFA=R 10D00=A 10D24=M 10D28=L 10D30=N
10D3A=L 10E60=N 10E7F=L 10E80=R 10EAA=L 10EAB=M 10EAD=R 10EAE=L 10EB0=R 10EB2=L 10EFD=M 10F00=R
10F28=L 10F30=A 10F46=M 10F51=A 10F5A=L 10F70=R 10F82=M 10F86=R 10F8A=L 10FB0=R 10FCC=L 10FE0=R
10FF7=L 11001=M 11002=L 11038=M 11047=L 11052=O 11066=L 11070=M 11071=L 11073=M 11075=L 1107F=M
11082=L 110B3=M 110B7=L 110B9=M 110BB=L 110C2=M 110C3=L 11100=M 11103=L 11127=M 1112C=L 1112D=M
11135=L 11173=M 11174=L 11180=M 11182=L 111B6=M 111BF=L 111C9=M 111CD=L 111CF=M 111D0=L 1122F=M
11232=L 11234=M 11235=L 11236=M 11238=L 1123E=M 1123F=L 11241=M 11242=L 112DF=M 112E0=L 112E3=M
112EB=L 11300=M 11302=L 1133B=M 1133D=L 11340=M 11341=L 11366=M 1136D=L 11370=M 11375=L 11438=M
11440=L 11442=M 11445=L 11446=M 11447=L 1145E=M 1145F=L 114B3=M 114B9=L 114BA=M 114BB=L 114BF=M
114C1=L 114C2=M 114C4=L 115B2=M 115B6=L 115BC=M 115BE=L 115BF=M 115C1=L 115DC=M 115DE=L 11633=M
1163B=L 1163D=M 1163E=L 1163F=M 11641=L 11660=O 1166D=L 116AB=M 116AC=L 116AD=M 116AE=L 116B0=M
116B6=L 116B7=M 116B8=L 1171D=M 11720=L 11722=M 11726=L 11727=M 1172C=L 1182F=M 11838=L 11839=M
1183B=L 1193B=M 1193D=L 1193E=M 1193F=L 11943=M 11944=L 119D4=M 119D8=L 119DA=M 119DC=L 119E0=M
119E1=L 11A01=M 11A07=L 11A09=M 11A0B=L 11A33=M 11A39=L 11A3B=M 11A3F=L 11A47=M 11A48=L 11A51=M
11A57=L 11A59=M 11A5C=L 11A8A=M 11A97=L 11A98=M 11A9A=L 11C30=M 11C37=L 11C38=M 11C3E=L 11C92=M
11CA8=L 11CAA=M 11CB1=L 11CB2=M 11CB4=L 11CB5=M 11CB7=L 11D31=M 11D37=L 11D3A=M 11D3B=L 11D3C=M
11D3E=L 11D3F=M 11D46=L 11D47=M 11D48=L 11D90=M 11D92=L 11D95=M 11D96=L 11D97=M 11D98=L 11EF3=M
11EF5=L 11F00=M 11F02=L 11F36=M 11F3B=L 11F40=M 11F41=L 11F42=M 11F43=L 11FD5=O 11FDD=T 11FE1=O
11FF2=L 13440=M 13441=L 13447=M 13456=L 16AF0=M 16AF5=L 16B30=M 16B37=L 16F4F=M 16F50=L 16F8F=M
16F93=L 16FE2=O 16FE3=L 16FE4=M 16FE5=L 1BC9D=M 1BC9F=L 1BCA0=B 1BCA4=L 1CF00=M 1CF2E=L 1CF30=M
1CF47=L 1D167=M 1D16A=L 1D173=B 1D17B=M 1D183=L 1D185=M 1D18C=L 1D1AA=M 1D1AE=L 1D1E9=O 1D1EB=L
1D200=O 1D242=M 1D245=O 1D246=L 1D300=O 1D357=L 1D6DB=O 1D6DC=L 1D715=O 1D716=L 1D74F=O 1D750=L
1D789=O 1D78A=L 1D7C3=O 1D7C4=L 1D7CE=E 1D800=L 1DA00=M 1DA37=L 1DA3B=M 1DA6D=L 1DA75=M 1DA76=L
1DA84=M 1DA85=L 1DA9B=M 1DAA0=L 1DAA1=M 1DAB0=L 1E000=M 1E007=L 1E008=M 1E019=L 1E01B=M 1E022=L
1E023=M 1E025=L 1E026=M 1E02B=L 1E08F=M 1E090=L 1E130=M 1E137=L 1E2AE=M 1E2AF=L 1E2EC=M 1E2F0=L
1E2FF=T 1E300=L 1E4EC=M 1E4F0=L 1E800=R 1E8C5=L 1E8C7=R 1E8D0=M 1E8D7=L 1E900=R 1E944=M 1E94B=R
1E94C=L 1E950=R 1E95A=L 1E95E=R 1E960=L 1EC71=A 1ECB5=L 1ED01=A 1ED3E=L 1EE00=A 1EE04=L 1EE05=A
1EE20=L 1EE21=A 1EE23=L 1EE24=A 1EE25=L 1EE27=A 1EE28=L 1EE29=A 1EE33=L 1EE34=A 1EE38=L 1EE39=A
1EE3A=L 1EE3B=A 1EE3C=L 1EE42=A 1EE43=L 1EE47=A 1EE48=L 1EE49=A 1EE4A=L 1EE4B=A 1EE4C=L 1EE4D=A
1EE50=L 1EE51=A 1EE53=L 1EE54=A 1EE55=L 1EE57=A 1EE58=L 1EE59=A 1EE5A=L 1EE5B=A 1EE5C=L 1EE5D=A
1EE5E=L 1EE5F=A 1EE60=L 1EE61=A 1EE63=L 1EE64=A 1EE65=L 1EE67=A 1EE6B=L 1EE6C=A 1EE73=L 1EE74=A
1EE78=L 1EE79=A 1EE7D=L 1EE7E=A 1EE7F=L 1EE80=A 1EE8A=L 1EE8B=A 1EE9C=L 1EEA1=A 1EEA4=L 1EEA5=A
1EEAA=L 1EEAB=A 1EEBC=L 1EEF0=O 1EEF2=L 1F000=O 1F02C=L 1F030=O 1F094=L 1F0A0=O 1F0AF=L 1F0B1=O
1F0C0=L 1F0C1=O 1F0D0=L 1F0D1=O 1F0F6=L 1F100=E 1F10B=O 1F110=L 1F12F=O 1F130=L 1F16A=O 1F170=L
1F1AD=O 1F1AE=L 1F260=O 1F266=L 1F300=O 1F6D8=L 1F6DC=O 1F6ED=L 1F6F0=O 1F6FD=L 1F700=O 1F777=L
1F77B=O 1F7DA=L 1F7E0=O 1F7EC=L 1F7F0=O 1F7F1=L 1F800=O 1F80C=L 1F810=O 1F848=L 1F850=O 1F85A=L
1F860=O 1F888=L 1F890=O 1F8AE=L 1F8B0=O 1F8B2=L 1F900=O 1FA54=L 1FA60=O 1FA6E=L 1FA70=O 1FA7D=L
1FA80=O 1FA89=L 1FA90=O 1FABE=L 1FABF=O 1FAC6=L 1FACE=O 1FADC=L 1FAE0=O 1FAE9=L 1FAF0=O 1FAF9=L
1FB00=O 1FB93=L 1FB94=O 1FBCB=L 1FBF0=E 1FBFA=L E0001=B E0002=L E0020=B E0080=L E0100=M E01F0=L"

/-- The bidirectional class of a character. -/
def bidiClass (c : Char) : BidiClass :=
  (bidiSteps.at? c).getD .leftToRight

end SessionLedger.Unicode
