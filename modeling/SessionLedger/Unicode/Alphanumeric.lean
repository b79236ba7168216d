import SessionLedger.Unicode.Steps
/-! The characters that are alphabetic or numeric: those with the property Alphabetic and those of
general category Number. -/
namespace SessionLedger.Unicode

/-- Where alphabetic and numeric characters (`A`) and other characters (`O`) begin. -/
def alphanumericSteps : Steps Bool := Steps.read (· == ['A'])
  "0=O 30=A 3A=O 41=A 5B=O 61=A 7B=O AA=A AB=O B2=A B4=O B5=A B6=O B9=A BB=O BC=A BF=O C0=A D7=O
D8=A F7=O F8=A 2C2=O 2C6=A 2D2=O 2E0=A 2E5=O 2EC=A 2ED=O 2EE=A 2EF=O 345=A 346=O 370=A 375=O
376=A 378=O 37A=A 37E=O 37F=A 380=O 386=A 387=O 388=A 38B=O 38C=A 38D=O 38E=A 3A2=O 3A3=A 3F6=O
3F7=A 482=O 48A=A 530=O 531=A 557=O 559=A 55A=O 560=A 589=O 5B0=A 5BE=O 5BF=A 5C0=O 5C1=A 5C3=O
5C4=A 5C6=O 5C7=A 5C8=O 5D0=A 5EB=O 5EF=A 5F3=O 610=A 61B=O 620=A 658=O 659=A 66A=O 66E=A 6D4=O
6D5=A 6DD=O 6E1=A 6E9=O 6ED=A 6FD=O 6FF=A 700=O 710=A 740=O 74D=A 7B2=O 7C0=A 7EB=O 7F4=A 7F6=O
7FA=A 7FB=O 800=A 818=O 81A=A 82D=O 840=A 859=O 860=A 86B=O 870=A 888=O 889=A 88F=O 8A0=A 8CA=O
8D4=A 8E0=O 8E3=A 8EA=O 8F0=A 93C=O 93D=A 94D=O 94E=A 951=O 955=A 964=O 966=A 970=O 971=A 984=O
985=A 98D=O 98F=A 991=O 993=A 9A9=O 9AA=A 9B1=O 9B2=A 9B3=O 9B6=A 9BA=O 9BD=A 9C5=O 9C7=A 9C9=O
9CB=A 9CD=O 9CE=A 9CF=O 9D7=A 9D8=O 9DC=A 9DE=O 9DF=A 9E4=O 9E6=A 9F2=O 9F4=A 9FA=O 9FC=A 9FD=O
A01=A A04=O A05=A A0B=O A0F=A A11=O A13=A A29=O A2A=A A31=O A32=A A34=O A35=A A37=O A38=A A3A=O
A3E=A A43=O A47=A A49=O A4B=A A4D=O A51=A A52=O A59=A A5D=O A5E=A A5F=O A66=A A76=O A81=A A84=O
A85=A A8E=O A8F=A A92=O A93=A AA9=O AAA=A AB1=O AB2=A AB4=O AB5=A ABA=O ABD=A AC6=O AC7=A ACA=O
ACB=A ACD=O AD0=A AD1=O AE0=A AE4=O AE6=A AF0=O AF9=A AFD=O B01=A B04=O B05=A B0D=O B0F=A B11=O
B13=A B29=O B2A=A B31=O B32=A B34=O B35=A B3A=O B3D=A B45=O B47=A B49=O B4B=A B4D=O B56=A B58=O
B5C=A B5E=O B5F=A B64=O B66=A B70=O B71=A B78=O B82=A B84=O B85=A B8B=O B8E=A B91=O B92=A B96=O
B99=A B9B=O B9C=A B9D=O B9E=A BA0=O BA3=A BA5=O BA8=A BAB=O BAE=A BBA=O BBE=A BC3=O BC6=A BC9=O
BCA=A BCD=O BD0=A BD1=O BD7=A BD8=O BE6=A BF3=O C00=A C0D=O C0E=A C11=O C12=A C29=O C2A=A C3A=O
C3D=A C45=O C46=A C49=O C4A=A C4D=O C55=A C57=O C58=A C5B=O C5D=A C5E=O C60=A C64=O C66=A C70=O
C78=A C7F=O C80=A C84=O C85=A C8D=O C8E=A C91=O C92=A CA9=O CAA=A CB4=O CB5=A CBA=O CBD=A CC5=O
CC6=A CC9=O CCA=A CCD=O CD5=A CD7=O CDD=A CDF=O CE0=A CE4=O CE6=A CF0=O CF1=A CF4=O D00=A D0D=O
D0E=A D11=O D12=A D3B=O D3D=A D45=O D46=A D49=O D4A=A D4D=O D4E=A D4F=O D54=A D64=O D66=A D79=O
D7A=A D80=O D81=A D84=O D85=A D97=O D9A=A DB2=O DB3=A DBC=O DBD=A DBE=O DC0=A DC7=O DCF=A DD5=O
DD6=A DD7=O DD8=A DE0=O DE6=A DF0=O DF2=A DF4=O E01=A E3B=O E40=A E47=O E4D=A E4E=O E50=A E5A=O
E81=A E83=O E84=A E85=O E86=A E8B=O E8C=A EA4=O EA5=A EA6=O EA7=A EBA=O EBB=A EBE=O EC0=A EC5=O
EC6=A EC7=O ECD=A ECE=O ED0=A EDA=O EDC=A EE0=O F00=A F01=O F20=A F34=O F40=A F48=O F49=A F6D=O
F71=A F84=O F88=A F98=O F99=A FBD=O 1000=A 1037=O 1038=A 1039=O 103B=A 104A=O 1050=A 109E=O
10A0=A 10C6=O 10C7=A 10C8=O 10CD=A 10CE=O 10D0=A 10FB=O 10FC=A 1249=O 124A=A 124E=O 1250=A
1257=O 1258=A 1259=O 125A=A 125E=O 1260=A 1289=O 128A=A 128E=O 1290=A 12B1=O 12B2=A 12B6=O
12B8=A 12BF=O 12C0=A 12C1=O 12C2=A 12C6=O 12C8=A 12D7=O 12D8=A 1311=O 1312=A 1316=O 1318=A
135B=O 1369=A 137D=O 1380=A 1390=O 13A0=A 13F6=O 13F8=A 13FE=O 1401=A 166D=O 166F=A 1680=O
1681=A 169B=O 16A0=A 16EB=O 16EE=A 16F9=O 1700=A 1714=O 171F=A 1734=O 1740=A 1754=O 1760=A
176D=O 176E=A 1771=O 1772=A 1774=O 1780=A 17B4=O 17B6=A 17C9=O 17D7=A 17D8=O 17DC=A 17DD=O
17E0=A 17EA=O 17F0=A 17FA=O 1810=A 181A=O 1820=A 1879=O 1880=A 18AB=O 18B0=A 18F6=O 1900=A
191F=O 1920=A 192C=O 1930=A 1939=O 1946=A 196E=O 1970=A 1975=O 1980=A 19AC=O 19B0=A 19CA=O
19D0=A 19DB=O 1A00=A 1A1C=O 1A20=A 1A5F=O 1A61=A 1A75=O 1A80=A 1A8A=O 1A90=A 1A9A=O 1AA7=A
1AA8=O 1ABF=A 1AC1=O 1ACC=A 1ACF=O 1B00=A 1B34=O 1B35=A 1B44=O 1B45=A 1B4D=O 1B50=A 1B5A=O
1B80=A 1BAA=O 1BAC=A 1BE6=O 1BE7=A 1BF2=O 1C00=A 1C37=O 1C40=A 1C4A=O 1C4D=A 1C7E=O 1C80=A
1C89=O 1C90=A 1CBB=O 1CBD=A 1CC0=O 1CE9=A 1CED=O 1CEE=A 1CF4=O 1CF5=A 1CF7=O 1CFA=A 1CFB=O
1D00=A 1DC0=O 1DE7=A 1DF5=O 1E00=A 1F16=O 1F18=A 1F1E=O 1F20=A 1F46=O 1F48=A 1F4E=O 1F50=A
1F58=O 1F59=A 1F5A=O 1F5B=A 1F5C=O 1F5D=A 1F5E=O 1F5F=A 1F7E=O 1F80=A 1FB5=O 1FB6=A 1FBD=O
1FBE=A 1FBF=O 1FC2=A 1FC5=O 1FC6=A 1FCD=O 1FD0=A 1FD4=O 1FD6=A 1FDC=O 1FE0=A 1FED=O 1FF2=A
1FF5=O 1FF6=A 1FFD=O 2070=A 2072=O 2074=A 207A=O 207F=A 208A=O 2090=A 209D=O 2102=A 2103=O
2107=A 2108=O 210A=A 2114=O 2115=A 2116=O 2119=A 211E=O 2124=A 2125=O 2126=A 2127=O 2128=A
2129=O 212A=A 212E=O 212F=A 213A=O 213C=A 2140=O 2145=A 214A=O 214E=A 214F=O 2150=A 218A=O
2460=A 249C=O 24B6=A 2500=O 2776=A 2794=O 2C00=A 2CE5=O 2CEB=A 2CEF=O 2CF2=A 2CF4=O 2CFD=A
2CFE=O 2D00=A 2D26=O 2D27=A 2D28=O 2D2D=A 2D2E=O 2D30=A 2D68=O 2D6F=A 2D70=O 2D80=A 2D97=O
2DA0=A 2DA7=O 2DA8=A 2DAF=O 2DB0=A 2DB7=O 2DB8=A 2DBF=O 2DC0=A 2DC7=O 2DC8=A 2DCF=O 2DD0=A
2DD7=O 2DD8=A 2DDF=O 2DE0=A 2E00=O 2E2F=A 2E30=O 3005=A 3008=O 3021=A 302A=O 3031=A 3036=O
3038=A 303D=O 3041=A 3097=O 309D=A 30A0=O 30A1=A 30FB=O 30FC=A 3100=O 3105=A 3130=O 3131=A
318F=O 3192=A 3196=O 31A0=A 31C0=O 31F0=A 3200=O 3220=A 322A=O 3248=A 3250=O 3251=A 3260=O
3280=A 328A=O 32B1=A 32C0=O 3400=A 4DC0=O 4E00=A A48D=O A4D0=A A4FE=O A500=A A60D=O A610=A
A62C=O A640=A A66F=O A674=A A67C=O A67F=A A6F0=O A717=A A720=O A722=A A789=O A78B=A A7CB=O
A7D0=A A7D2=O A7D3=A A7D4=O A7D5=A A7DA=O A7F2=A A806=O A807=A A828=O A830=A A836=O A840=A
A874=O A880=A A8C4=O A8C5=A A8C6=O A8D0=A A8DA=O A8F2=A A8F8=O A8FB=A A8FC=O A8FD=A A92B=O
A930=A A953=O A960=A A97D=O A980=A A9B3=O A9B4=A A9C0=O A9CF=A A9DA=O A9E0=A A9FF=O AA00=A
AA37=O AA40=A AA4E=O AA50=A AA5A=O AA60=A AA77=O AA7A=A AABF=O AAC0=A AAC1=O AAC2=A AAC3=O
AADB=A AADE=O AAE0=A AAF0=O AAF2=A AAF6=O AB01=A AB07=O AB09=A AB0F=O AB11=A AB17=O AB20=A
AB27=O AB28=A AB2F=O AB30=A AB5B=O AB5C=A AB6A=O AB70=A ABEB=O ABF0=A ABFA=O AC00=A D7A4=O
D7B0=A D7C7=O D7CB=A D7FC=O F900=A FA6E=O FA70=A FADA=O FB00=A FB07=O FB13=A FB18=O FB1D=A
FB29=O FB2A=A FB37=O FB38=A FB3D=O FB3E=A FB3F=O FB40=A FB42=O FB43=A FB45=O FB46=A FBB2=O
FBD3=A FD3E=O FD50=A FD90=O FD92=A FDC8=O FDF0=A FDFC=O FE70=A FE75=O FE76=A FEFD=O FF10=A
FF1A=O FF21=A FF3B=O FF41=A FF5B=O FF66=A FFBF=O FFC2=A FFC8=O FFCA=A FFD0=O FFD2=A FFD8=O
FFDA=A FFDD=O 10000=A 1000C=O 1000D=A 10027=O 10028=A 1003B=O 1003C=A 1003E=O 1003F=A 1004E=O
10050=A 1005E=O 10080=A 100FB=O 10107=A 10134=O 10140=A 10179=O 1018A=A 1018C=O 10280=A 1029D=O
102A0=A 102D1=O 102E1=A 102FC=O 10300=A 10324=O 1032D=A 1034B=O 10350=A 1037B=O 10380=A 1039E=O
103A0=A 103C4=O 103C8=A 103D0=O 103D1=A 103D6=O 10400=A 1049E=O 104A0=A 104AA=O 104B0=A 104D4=O
104D8=A 104FC=O 10500=A 10528=O 10530=A 10564=O 10570=A 1057B=O 1057C=A 1058B=O 1058C=A 10593=O
10594=A 10596=O 10597=A 105A2=O 105A3=A 105B2=O 105B3=A 105BA=O 105BB=A 105BD=O 10600=A 10737=O
10740=A 10756=O 10760=A 10768=O 10780=A 10786=O 10787=A 107B1=O 107B2=A 107BB=O 10800=A 10806=O
10808=A 10809=O 1080A=A 10836=O 10837=A 10839=O 1083C=A 1083D=O 1083F=A 10856=O 10858=A 10877=O
10879=A 1089F=O 108A7=A 108B0=O 108E0=A 108F3=O 108F4=A 108F6=O 108FB=A 1091C=O 10920=A 1093A=O
10980=A 109B8=O 109BC=A 109D0=O 109D2=A 10A04=O 10A05=A 10A07=O 10A0C=A 10A14=O 10A15=A 10A18=O
10A19=A 10A36=O 10A40=A 10A49=O 10A60=A 10A7F=O 10A80=A 10AA0=O 10AC0=A 10AC8=O 10AC9=A 10AE5=O
10AEB=A 10AF0=O 10B00=A 10B36=O 10B40=A 10B56=O 10B58=A 10B73=O 10B78=A 10B92=O 10BA9=A 10BB0=O
10C00=A 10C49=O 10C80=A 10CB3=O 10CC0=A 10CF3=O 10CFA=A 10D28=O 10D30=A 10D3A=O 10E60=A 10E7F=O
10E80=A 10EAA=O 10EAB=A 10EAD=O 10EB0=A 10EB2=O 10F00=A 10F28=O 10F30=A 10F46=O 10F51=A 10F55=O
10F70=A 10F82=O 10FB0=A 10FCC=O 10FE0=A 10FF7=O 11000=A 11046=O 11052=A 11070=O 11071=A 11076=O
11080=A 110B9=O 110C2=A 110C3=O 110D0=A 110E9=O 110F0=A 110FA=O 11100=A 11133=O 11136=A 11140=O
11144=A 11148=O 11150=A 11173=O 11176=A 11177=O 11180=A 111C0=O 111C1=A 111C5=O 111CE=A 111DB=O
111DC=A 111DD=O 111E1=A 111F5=O 11200=A 11212=O 11213=A 11235=O 11237=A 11238=O 1123E=A 11242=O
11280=A 11287=O 11288=A 11289=O 1128A=A 1128E=O 1128F=A 1129E=O 1129F=A 112A9=O 112B0=A 112E9=O
112F0=A 112FA=O 11300=A 11304=O 11305=A 1130D=O 1130F=A 11311=O 11313=A 11329=O 1132A=A 11331=O
11332=A 11334=O 11335=A 1133A=O 1133D=A 11345=O 11347=A 11349=O 1134B=A 1134D=O 11350=A 11351=O
11357=A 11358=O 1135D=A 11364=O 11400=A 11442=O 11443=A 11446=O 11447=A 1144B=O 11450=A 1145A=O
1145F=A 11462=O 11480=A 114C2=O 114C4=A 114C6=O 114C7=A 114C8=O 114D0=A 114DA=O 11580=A 115B6=O
115B8=A 115BF=O 115D8=A 115DE=O 11600=A 1163F=O 11640=A 11641=O 11644=A 11645=O 11650=A 1165A=O
11680=A 116B6=O 116B8=A 116B9=O 116C0=A 116CA=O 11700=A 1171B=O 1171D=A 1172B=O 11730=A 1173C=O
11740=A 11747=O 11800=A 11839=O 118A0=A 118F3=O 118FF=A 11907=O 11909=A 1190A=O 1190C=A 11914=O
11915=A 11917=O 11918=A 11936=O 11937=A 11939=O 1193B=A 1193D=O 1193F=A 11943=O 11950=A 1195A=O
119A0=A 119A8=O 119AA=A 119D8=O 119DA=A 119E0=O 119E1=A 119E2=O 119E3=A 119E5=O 11A00=A 11A33=O
11A35=A 11A3F=O 11A50=A 11A98=O 11A9D=A 11A9E=O 11AB0=A 11AF9=O 11C00=A 11C09=O 11C0A=A 11C37=O
11C38=A 11C3F=O 11C40=A 11C41=O 11C50=A 11C6D=O 11C72=A 11C90=O 11C92=A 11CA8=O 11CA9=A 11CB7=O
11D00=A 11D07=O 11D08=A 11D0A=O 11D0B=A 11D37=O 11D3A=A 11D3B=O 11D3C=A 11D3E=O 11D3F=A 11D42=O
11D43=A 11D44=O 11D46=A 11D48=O 11D50=A 11D5A=O 11D60=A 11D66=O 11D67=A 11D69=O 11D6A=A 11D8F=O
11D90=A 11D92=O 11D93=A 11D97=O 11D98=A 11D99=O 11DA0=A 11DAA=O 11EE0=A 11EF7=O 11F00=A 11F11=O
11F12=A 11F3B=O 11F3E=A 11F41=O 11F50=A 11F5A=O 11FB0=A 11FB1=O 11FC0=A 11FD5=O 12000=A 1239A=O
12400=A 1246F=O 12480=A 12544=O 12F90=A 12FF1=O 13000=A 13430=O 13441=A 13447=O 14400=A 14647=O
16800=A 16A39=O 16A40=A 16A5F=O 16A60=A 16A6A=O 16A70=A 16ABF=O 16AC0=A 16ACA=O 16AD0=A 16AEE=O
16B00=A 16B30=O 16B40=A 16B44=O 16B50=A 16B5A=O 16B5B=A 16B62=O 16B63=A 16B78=O 16B7D=A 16B90=O
16E40=A 16E97=O 16F00=A 16F4B=O 16F4F=A 16F88=O 16F8F=A 16FA0=O 16FE0=A 16FE2=O 16FE3=A 16FE4=O
16FF0=A 16FF2=O 17000=A 187F8=O 18800=A 18CD6=O 18D00=A 18D09=O 1AFF0=A 1AFF4=O 1AFF5=A 1AFFC=O
1AFFD=A 1AFFF=O 1B000=A 1B123=O 1B132=A 1B133=O 1B150=A 1B153=O 1B155=A 1B156=O 1B164=A 1B168=O
1B170=A 1B2FC=O 1BC00=A 1BC6B=O 1BC70=A 1BC7D=O 1BC80=A 1BC89=O 1BC90=A 1BC9A=O 1BC9E=A 1BC9F=O
1D2C0=A 1D2D4=O 1D2E0=A 1D2F4=O 1D360=A 1D379=O 1D400=A 1D455=O 1D456=A 1D49D=O 1D49E=A 1D4A0=O
1D4A2=A 1D4A3=O 1D4A5=A 1D4A7=O 1D4A9=A 1D4AD=O 1D4AE=A 1D4BA=O 1D4BB=A 1D4BC=O 1D4BD=A 1D4C4=O
1D4C5=A 1D506=O 1D507=A 1D50B=O 1D50D=A 1D515=O 1D516=A 1D51D=O 1D51E=A 1D53A=O 1D53B=A 1D53F=O
1D540=A 1D545=O 1D546=A 1D547=O 1D54A=A 1D551=O 1D552=A 1D6A6=O 1D6A8=A 1D6C1=O 1D6C2=A 1D6DB=O
1D6DC=A 1D6FB=O 1D6FC=A 1D715=O 1D716=A 1D735=O 1D736=A 1D74F=O 1D750=A 1D76F=O 1D770=A 1D789=O
1D78A=A 1D7A9=O 1D7AA=A 1D7C3=O 1D7C4=A 1D7CC=O 1D7CE=A 1D800=O 1DF00=A 1DF1F=O 1DF25=A 1DF2B=O
1E000=A 1E007=O 1E008=A 1E019=O 1E01B=A 1E022=O 1E023=A 1E025=O 1E026=A 1E02B=O 1E030=A 1E06E=O
1E08F=A 1E090=O 1E100=A 1E12D=O 1E137=A 1E13E=O 1E140=A 1E14A=O 1E14E=A 1E14F=O 1E290=A 1E2AE=O
1E2C0=A 1E2EC=O 1E2F0=A 1E2FA=O 1E4D0=A 1E4EC=O 1E4F0=A 1E4FA=O 1E7E0=A 1E7E7=O 1E7E8=A 1E7EC=O
1E7ED=A 1E7EF=O 1E7F0=A 1E7FF=O 1E800=A 1E8C5=O 1E8C7=A 1E8D0=O 1E900=A 1E944=O 1E947=A 1E948=O
1E94B=A 1E94C=O 1E950=A 1E95A=O 1EC71=A 1ECAC=O 1ECAD=A 1ECB0=O 1ECB1=A 1ECB5=O 1ED01=A 1ED2E=O
1ED2F=A 1ED3E=O 1EE00=A 1EE04=O 1EE05=A 1EE20=O 1EE21=A 1EE23=O 1EE24=A 1EE25=O 1EE27=A 1EE28=O
1EE29=A 1EE33=O 1EE34=A 1EE38=O 1EE39=A 1EE3A=O 1EE3B=A 1EE3C=O 1EE42=A 1EE43=O 1EE47=A 1EE48=O
1EE49=A 1EE4A=O 1EE4B=A 1EE4C=O 1EE4D=A 1EE50=O 1EE51=A 1EE53=O 1EE54=A 1EE55=O 1EE57=A 1EE58=O
1EE59=A 1EE5A=O 1EE5B=A 1EE5C=O 1EE5D=A 1EE5E=O 1EE5F=A 1EE60=O 1EE61=A 1EE63=O 1EE64=A 1EE65=O
1EE67=A 1EE6B=O 1EE6C=A 1EE73=O 1EE74=A 1EE78=O 1EE79=A 1EE7D=O 1EE7E=A 1EE7F=O 1EE80=A 1EE8A=O
1EE8B=A 1EE9C=O 1EEA1=A 1EEA4=O 1EEA5=A 1EEAA=O 1EEAB=A 1EEBC=O 1F100=A 1F10D=O 1F130=A 1F14A=O
1F150=A 1F16A=O 1F170=A 1F18A=O 1FBF0=A 1FBFA=O 20000=A 2A6E0=O 2A700=A 2B73A=O 2B740=A 2B81E=O
2B820=A 2CEA2=O 2CEB0=A 2EBE1=O 2F800=A 2FA1E=O 30000=A 3134B=O 31350=A 323B0=O"

/-- The character is alphabetic or numeric. -/
def isAlphanumeric (c : Char) : Bool :=
  (alphanumericSteps.at? c).getD false

end SessionLedger.Unicode
