import SessionLedger.Unicode.Steps
/-! The characters of general category Mark: nonspacing, spacing and enclosing marks. -/
namespace SessionLedger.Unicode

/-- Where marks (`M`) and other characters (`O`) begin. -/
def markSteps : Steps Bool := Steps.read (· == ['M'])
  "0=O 300=M 370=O 483=M 48A=O 591=M 5BE=O 5BF=M 5C0=O 5C1=M 5C3=O 5C4=M 5C6=O 5C7=M 5C8=O 610=M
61B=O 64B=M 660=O 670=M 671=O 6D6=M 6DD=O 6DF=M 6E5=O 6E7=M 6E9=O 6EA=M 6EE=O 711=M 712=O 730=M
74B=O 7A6=M 7B1=O 7EB=M 7F4=O 7FD=M 7FE=O 816=M 81A=O 81B=M 824=O 825=M 828=O 829=M 82E=O 859=M
85C=O 898=M 8A0=O 8CA=M 8E2=O 8E3=M 904=O 93A=M 93D=O 93E=M 950=O 951=M 958=O 962=M 964=O 981=M
984=O 9BC=M 9BD=O 9BE=M 9C5=O 9C7=M 9C9=O 9CB=M 9CE=O 9D7=M 9D8=O 9E2=M 9E4=O 9FE=M 9FF=O A01=M
A04=O A3C=M A3D=O A3E=M A43=O A47=M A49=O A4B=M A4E=O A51=M A52=O A70=M A72=O A75=M A76=O A81=M
A84=O ABC=M ABD=O ABE=M AC6=O AC7=M ACA=O ACB=M ACE=O AE2=M AE4=O AFA=M B00=O B01=M B04=O B3C=M
B3D=O B3E=M B45=O B47=M B49=O B4B=M B4E=O B55=M B58=O B62=M B64=O B82=M B83=O BBE=M BC3=O BC6=M
BC9=O BCA=M BCE=O BD7=M BD8=O C00=M C05=O C3C=M C3D=O C3E=M C45=O C46=M C49=O C4A=M C4E=O C55=M
C57=O C62=M C64=O C81=M C84=O CBC=M CBD=O CBE=M CC5=O CC6=M CC9=O CCA=M CCE=O CD5=M CD7=O CE2=M
CE4=O CF3=M CF4=O D00=M D04=O D3B=M D3D=O D3E=M D45=O D46=M D49=O D4A=M D4E=O D57=M D58=O D62=M
D64=O D81=M D84=O DCA=M DCB=O DCF=M DD5=O DD6=M DD7=O DD8=M DE0=O DF2=M DF4=O E31=M E32=O E34=M
E3B=O E47=M E4F=O EB1=M EB2=O EB4=M EBD=O EC8=M ECF=O F18=M F1A=O F35=M F36=O F37=M F38=O F39=M
F3A=O F3E=M F40=O F71=M F85=O F86=M F88=O F8D=M F98=O F99=M FBD=O FC6=M FC7=O 102B=M 103F=O
1056=M 105A=O 105E=M 1061=O 1062=M 1065=O 1067=M 106E=O 1071=M 1075=O 1082=M 108E=O 108F=M
1090=O 109A=M 109E=O 135D=M 1360=O 1712=M 1716=O 1732=M 1735=O 1752=M 1754=O 1772=M 1774=O
17B4=M 17D4=O 17DD=M 17DE=O 180B=M 180E=O 180F=M 1810=O 1885=M 1887=O 18A9=M 18AA=O 1920=M
192C=O 1930=M 193C=O 1A17=M 1A1C=O 1A55=M 1A5F=O 1A60=M 1A7D=O 1A7F=M 1A80=O 1AB0=M 1ACF=O
1B00=M 1B05=O 1B34=M 1B45=O 1B6B=M 1B74=O 1B80=M 1B83=O 1BA1=M 1BAE=O 1BE6=M 1BF4=O 1C24=M
1C38=O 1CD0=M 1CD3=O 1CD4=M 1CE9=O 1CED=M 1CEE=O 1CF4=M 1CF5=O 1CF7=M 1CFA=O 1DC0=M 1E00=O
20D0=M 20F1=O 2CEF=M 2CF2=O 2D7F=M 2D80=O 2DE0=M 2E00=O 302A=M 3030=O 3099=M 309B=O A66F=M
A673=O A674=M A67E=O A69E=M A6A0=O A6F0=M A6F2=O A802=M A803=O A806=M A807=O A80B=M A80C=O
A823=M A828=O A82C=M A82D=O A880=M A882=O A8B4=M A8C6=O A8E0=M A8F2=O A8FF=M A900=O A926=M
A92E=O A947=M A954=O A980=M A984=O A9B3=M A9C1=O A9E5=M A9E6=O AA29=M AA37=O AA43=M AA44=O
AA4C=M AA4E=O AA7B=M AA7E=O AAB0=M AAB1=O AAB2=M AAB5=O AAB7=M AAB9=O AABE=M AAC0=O AAC1=M
AAC2=O AAEB=M AAF0=O AAF5=M AAF7=O ABE3=M ABEB=O ABEC=M ABEE=O FB1E=M FB1F=O FE00=M FE10=O
FE20=M FE30=O 101FD=M 101FE=O 102E0=M 102E1=O 10376=M 1037B=O 10A01=M 10A04=O 10A05=M 10A07=O
10A0C=M 10A10=O 10A38=M 10A3B=O 10A3F=M 10A40=O 10AE5=M 10AE7=O 10D24=M 10D28=O 10EAB=M 10EAD=O
10EFD=M 10F00=O 10F46=M 10F51=O 10F82=M 10F86=O 11000=M 11003=O 11038=M 11047=O 11070=M 11071=O
11073=M 11075=O 1107F=M 11083=O 110B0=M 110BB=O 110C2=M 110C3=O 11100=M 11103=O 11127=M 11135=O
11145=M 11147=O 11173=M 11174=O 11180=M 11183=O 111B3=M 111C1=O 111C9=M 111CD=O 111CE=M 111D0=O
1122C=M 11238=O 1123E=M 1123F=O 11241=M 11242=O 112DF=M 112EB=O 11300=M 11304=O 1133B=M 1133D=O
1133E=M 11345=O 11347=M 11349=O 1134B=M 1134E=O 11357=M 11358=O 11362=M 11364=O 11366=M 1136D=O
11370=M 11375=O 11435=M 11447=O 1145E=M 1145F=O 114B0=M 114C4=O 115AF=M 115B6=O 115B8=M 115C1=O
115DC=M 115DE=O 11630=M 11641=O 116AB=M 116B8=O 1171D=M 1172C=O 1182C=M 1183B=O 11930=M 11936=O
11937=M 11939=O 1193B=M 1193F=O 11940=M 11941=O 11942=M 11944=O 119D1=M 119D8=O 119DA=M 119E1=O
119E4=M 119E5=O 11A01=M 11A0B=O 11A33=M 11A3A=O 11A3B=M 11A3F=O 11A47=M 11A48=O 11A51=M 11A5C=O
11A8A=M 11A9A=O 11C2F=M 11C37=O 11C38=M 11C40=O 11C92=M 11CA8=O 11CA9=M 11CB7=O 11D31=M 11D37=O
11D3A=M 11D3B=O 11D3C=M 11D3E=O 11D3F=M 11D46=O 11D47=M 11D48=O 11D8A=M 11D8F=O 11D90=M 11D92=O
11D93=M 11D98=O 11EF3=M 11EF7=O 11F00=M 11F02=O 11F03=M 11F04=O 11F34=M 11F3B=O 11F3E=M 11F43=O
13440=M 13441=O 13447=M 13456=O 16AF0=M 16AF5=O 16B30=M 16B37=O 16F4F=M 16F50=O 16F51=M 16F88=O
16F8F=M 16F93=O 16FE4=M 16FE5=O 16FF0=M 16FF2=O 1BC9D=M 1BC9F=O 1CF00=M 1CF2E=O 1CF30=M 1CF47=O
1D165=M 1D16A=O 1D16D=M 1D173=O 1D17B=M 1D183=O 1D185=M 1D18C=O 1D1AA=M 1D1AE=O 1D242=M 1D245=O
1DA00=M 1DA37=O 1DA3B=M 1DA6D=O 1DA75=M 1DA76=O 1DA84=M 1DA85=O 1DA9B=M 1DAA0=O 1DAA1=M 1DAB0=O
1E000=M 1E007=O 1E008=M 1E019=O 1E01B=M 1E022=O 1E023=M 1E025=O 1E026=M 1E02B=O 1E08F=M 1E090=O
1E130=M 1E137=O 1E2AE=M 1E2AF=O 1E2EC=M 1E2F0=O 1E4EC=M 1E4F0=O 1E8D0=M 1E8D7=O 1E944=M 1E94B=O
E0100=M E01F0=O"

/-- The character has general category Mark. -/
def isMark (c : Char) : Bool :=
  (markSteps.at? c).getD false

end SessionLedger.Unicode
