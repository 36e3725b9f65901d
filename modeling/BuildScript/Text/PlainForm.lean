import BuildScript.Text.Range

/-! # Plain forms

The Unicode 14 form of a name in which every character is taken apart into the plain characters
that it is made of, the marks on a letter in their canonical order. Names of one form are one
name.
-/

namespace BuildScript.Text

/-- What characters are made of, by code points in hexadecimal. Those of a range stand for single
characters that follow each other. -/
def plainParts : String :=
  "AA=61 B5=3BC BA=6F C0=41+300 C1=41+301 C2=41+302 C3=41+303 C4=41+308 C5=41+30A C7=43+327
  C8=45+300 C9=45+301 CA=45+302 CB=45+308 CC=49+300 CD=49+301 CE=49+302 CF=49+308 D1=4E+303
  D2=4F+300 D3=4F+301 D4=4F+302 D5=4F+303 D6=4F+308 D9=55+300 DA=55+301 DB=55+302 DC=55+308
  DD=59+301 E0=61+300 E1=61+301 E2=61+302 E3=61+303 E4=61+308 E5=61+30A E7=63+327 E8=65+300
  E9=65+301 EA=65+302 EB=65+308 EC=69+300 ED=69+301 EE=69+302 EF=69+308 F1=6E+303 F2=6F+300
  F3=6F+301 F4=6F+302 F5=6F+303 F6=6F+308 F9=75+300 FA=75+301 FB=75+302 FC=75+308 FD=79+301
  FF=79+308 100=41+304 101=61+304 102=41+306 103=61+306 104=41+328 105=61+328 106=43+301
  107=63+301 108=43+302 109=63+302 10A=43+307 10B=63+307 10C=43+30C 10D=63+30C 10E=44+30C
  10F=64+30C 112=45+304 113=65+304 114=45+306 115=65+306 116=45+307 117=65+307 118=45+328
  119=65+328 11A=45+30C 11B=65+30C 11C=47+302 11D=67+302 11E=47+306 11F=67+306 120=47+307
  121=67+307 122=47+327 123=67+327 124=48+302 125=68+302 128=49+303 129=69+303 12A=49+304
  12B=69+304 12C=49+306 12D=69+306 12E=49+328 12F=69+328 130=49+307 132=49+4A 133=69+6A 134=4A+302
  135=6A+302 136=4B+327 137=6B+327 139=4C+301 13A=6C+301 13B=4C+327 13C=6C+327 13D=4C+30C
  13E=6C+30C 13F=4C+B7 140=6C+B7 143=4E+301 144=6E+301 145=4E+327 146=6E+327 147=4E+30C 148=6E+30C
  149=2BC+6E 14C=4F+304 14D=6F+304 14E=4F+306 14F=6F+306 150=4F+30B 151=6F+30B 154=52+301
  155=72+301 156=52+327 157=72+327 158=52+30C 159=72+30C 15A=53+301 15B=73+301 15C=53+302
  15D=73+302 15E=53+327 15F=73+327 160=53+30C 161=73+30C 162=54+327 163=74+327 164=54+30C
  165=74+30C 168=55+303 169=75+303 16A=55+304 16B=75+304 16C=55+306 16D=75+306 16E=55+30A
  16F=75+30A 170=55+30B 171=75+30B 172=55+328 173=75+328 174=57+302 175=77+302 176=59+302
  177=79+302 178=59+308 179=5A+301 17A=7A+301 17B=5A+307 17C=7A+307 17D=5A+30C 17E=7A+30C 17F=73
  1A0=4F+31B 1A1=6F+31B 1AF=55+31B 1B0=75+31B 1C4=44+5A+30C 1C5=44+7A+30C 1C6=64+7A+30C 1C7=4C+4A
  1C8=4C+6A 1C9=6C+6A 1CA=4E+4A 1CB=4E+6A 1CC=6E+6A 1CD=41+30C 1CE=61+30C 1CF=49+30C 1D0=69+30C
  1D1=4F+30C 1D2=6F+30C 1D3=55+30C 1D4=75+30C 1D5=55+308+304 1D6=75+308+304 1D7=55+308+301
  1D8=75+308+301 1D9=55+308+30C 1DA=75+308+30C 1DB=55+308+300 1DC=75+308+300 1DE=41+308+304
  1DF=61+308+304 1E0=41+307+304 1E1=61+307+304 1E2=C6+304 1E3=E6+304 1E6=47+30C 1E7=67+30C
  1E8=4B+30C 1E9=6B+30C 1EA=4F+328 1EB=6F+328 1EC=4F+328+304 1ED=6F+328+304 1EE=1B7+30C
  1EF=292+30C 1F0=6A+30C 1F1=44+5A 1F2=44+7A 1F3=64+7A 1F4=47+301 1F5=67+301 1F8=4E+300 1F9=6E+300
  1FA=41+30A+301 1FB=61+30A+301 1FC=C6+301 1FD=E6+301 1FE=D8+301 1FF=F8+301 200=41+30F 201=61+30F
  202=41+311 203=61+311 204=45+30F 205=65+30F 206=45+311 207=65+311 208=49+30F 209=69+30F
  20A=49+311 20B=69+311 20C=4F+30F 20D=6F+30F 20E=4F+311 20F=6F+311 210=52+30F 211=72+30F
  212=52+311 213=72+311 214=55+30F 215=75+30F 216=55+311 217=75+311 218=53+326 219=73+326
  21A=54+326 21B=74+326 21E=48+30C 21F=68+30C 226=41+307 227=61+307 228=45+327 229=65+327
  22A=4F+308+304 22B=6F+308+304 22C=4F+303+304 22D=6F+303+304 22E=4F+307 22F=6F+307 230=4F+307+304
  231=6F+307+304 232=59+304 233=79+304 2B0=68 2B1=266 2B2=6A 2B3=72 2B4=279 2B5=27B 2B6=281 2B7=77
  2B8=79 2E0=263 2E1=6C 2E2=73 2E3=78 2E4=295 340-341=300 343=313 344=308+301 374=2B9 386=391+301
  387=B7 388=395+301 389=397+301 38A=399+301 38C=39F+301 38E=3A5+301 38F=3A9+301 390=3B9+308+301
  3AA=399+308 3AB=3A5+308 3AC=3B1+301 3AD=3B5+301 3AE=3B7+301 3AF=3B9+301 3B0=3C5+308+301
  3CA=3B9+308 3CB=3C5+308 3CC=3BF+301 3CD=3C5+301 3CE=3C9+301 3D0=3B2 3D1=3B8 3D2=3A5 3D3=3A5+301
  3D4=3A5+308 3D5=3C6 3D6=3C0 3F0=3BA 3F1-3F2=3C1 3F4=398 3F5=3B5 3F9=3A3 400=415+300 401=415+308
  403=413+301 407=406+308 40C=41A+301 40D=418+300 40E=423+306 419=418+306 439=438+306 450=435+300
  451=435+308 453=433+301 457=456+308 45C=43A+301 45D=438+300 45E=443+306 476=474+30F 477=475+30F
  4C1=416+306 4C2=436+306 4D0=410+306 4D1=430+306 4D2=410+308 4D3=430+308 4D6=415+306 4D7=435+306
  4DA=4D8+308 4DB=4D9+308 4DC=416+308 4DD=436+308 4DE=417+308 4DF=437+308 4E2=418+304 4E3=438+304
  4E4=418+308 4E5=438+308 4E6=41E+308 4E7=43E+308 4EA=4E8+308 4EB=4E9+308 4EC=42D+308 4ED=44D+308
  4EE=423+304 4EF=443+304 4F0=423+308 4F1=443+308 4F2=423+30B 4F3=443+30B 4F4=427+308 4F5=447+308
  4F8=42B+308 4F9=44B+308 587=565+582 622=627+653 623=627+654 624=648+654 625=627+655 626=64A+654
  675=627+674 676=648+674 677=6C7+674 678=64A+674 6C0=6D5+654 6C2=6C1+654 6D3=6D2+654 929=928+93C
  931=930+93C 934=933+93C 958=915+93C 959=916+93C 95A=917+93C 95B=91C+93C 95C=921+93C 95D=922+93C
  95E=92B+93C 95F=92F+93C 9CB=9C7+9BE 9CC=9C7+9D7 9DC=9A1+9BC 9DD=9A2+9BC 9DF=9AF+9BC A33=A32+A3C
  A36=A38+A3C A59=A16+A3C A5A=A17+A3C A5B=A1C+A3C A5E=A2B+A3C B48=B47+B56 B4B=B47+B3E B4C=B47+B57
  B5C=B21+B3C B5D=B22+B3C B94=B92+BD7 BCA=BC6+BBE BCB=BC7+BBE BCC=BC6+BD7 C48=C46+C56 CC0=CBF+CD5
  CC7=CC6+CD5 CC8=CC6+CD6 CCA=CC6+CC2 CCB=CC6+CC2+CD5 D4A=D46+D3E D4B=D47+D3E D4C=D46+D57
  DDA=DD9+DCA DDC=DD9+DCF DDD=DD9+DCF+DCA DDE=DD9+DDF E33=E4D+E32 EB3=ECD+EB2 EDC=EAB+E99
  EDD=EAB+EA1 F43=F42+FB7 F4D=F4C+FB7 F52=F51+FB7 F57=F56+FB7 F5C=F5B+FB7 F69=F40+FB5 F73=F71+F72
  F75=F71+F74 F76=FB2+F80 F77=FB2+F71+F80 F78=FB3+F80 F79=FB3+F71+F80 F81=F71+F80 F93=F92+FB7
  F9D=F9C+FB7 FA2=FA1+FB7 FA7=FA6+FB7 FAC=FAB+FB7 FB9=F90+FB5 1026=1025+102E 10FC=10DC
  1B06=1B05+1B35 1B08=1B07+1B35 1B0A=1B09+1B35 1B0C=1B0B+1B35 1B0E=1B0D+1B35 1B12=1B11+1B35
  1B3B=1B3A+1B35 1B3D=1B3C+1B35 1B40=1B3E+1B35 1B41=1B3F+1B35 1B43=1B42+1B35 1D2C=41 1D2D=C6
  1D2E=42 1D30-1D31=44 1D32=18E 1D33-1D3A=47 1D3C=4F 1D3D=222 1D3E=50 1D3F=52 1D40-1D41=54 1D42=57
  1D43=61 1D44-1D45=250 1D46=1D02 1D47=62 1D48-1D49=64 1D4A=259 1D4B-1D4C=25B 1D4D=67 1D4F=6B
  1D50=6D 1D51=14B 1D52=6F 1D53=254 1D54-1D55=1D16 1D56=70 1D57-1D58=74 1D59=1D1D 1D5A=26F 1D5B=76
  1D5C=1D25 1D5D-1D5F=3B2 1D60-1D61=3C6 1D62=69 1D63=72 1D64-1D65=75 1D66-1D67=3B2 1D68=3C1
  1D69-1D6A=3C6 1D78=43D 1D9B=252 1D9C=63 1D9D=255 1D9E=F0 1D9F=25C 1DA0=66 1DA1=25F 1DA2=261
  1DA3=265 1DA4-1DA6=268 1DA7=1D7B 1DA8=29D 1DA9=26D 1DAA=1D85 1DAB=29F 1DAC=271 1DAD=270
  1DAE-1DB1=272 1DB2=278 1DB3-1DB4=282 1DB5=1AB 1DB6-1DB7=289 1DB8=1D1C 1DB9-1DBA=28B 1DBB=7A
  1DBC-1DBE=290 1DBF=3B8 1E00=41+325 1E01=61+325 1E02=42+307 1E03=62+307 1E04=42+323 1E05=62+323
  1E06=42+331 1E07=62+331 1E08=43+327+301 1E09=63+327+301 1E0A=44+307 1E0B=64+307 1E0C=44+323
  1E0D=64+323 1E0E=44+331 1E0F=64+331 1E10=44+327 1E11=64+327 1E12=44+32D 1E13=64+32D
  1E14=45+304+300 1E15=65+304+300 1E16=45+304+301 1E17=65+304+301 1E18=45+32D 1E19=65+32D
  1E1A=45+330 1E1B=65+330 1E1C=45+327+306 1E1D=65+327+306 1E1E=46+307 1E1F=66+307 1E20=47+304
  1E21=67+304 1E22=48+307 1E23=68+307 1E24=48+323 1E25=68+323 1E26=48+308 1E27=68+308 1E28=48+327
  1E29=68+327 1E2A=48+32E 1E2B=68+32E 1E2C=49+330 1E2D=69+330 1E2E=49+308+301 1E2F=69+308+301
  1E30=4B+301 1E31=6B+301 1E32=4B+323 1E33=6B+323 1E34=4B+331 1E35=6B+331 1E36=4C+323 1E37=6C+323
  1E38=4C+323+304 1E39=6C+323+304 1E3A=4C+331 1E3B=6C+331 1E3C=4C+32D 1E3D=6C+32D 1E3E=4D+301
  1E3F=6D+301 1E40=4D+307 1E41=6D+307 1E42=4D+323 1E43=6D+323 1E44=4E+307 1E45=6E+307 1E46=4E+323
  1E47=6E+323 1E48=4E+331 1E49=6E+331 1E4A=4E+32D 1E4B=6E+32D 1E4C=4F+303+301 1E4D=6F+303+301
  1E4E=4F+303+308 1E4F=6F+303+308 1E50=4F+304+300 1E51=6F+304+300 1E52=4F+304+301 1E53=6F+304+301
  1E54=50+301 1E55=70+301 1E56=50+307 1E57=70+307 1E58=52+307 1E59=72+307 1E5A=52+323 1E5B=72+323
  1E5C=52+323+304 1E5D=72+323+304 1E5E=52+331 1E5F=72+331 1E60=53+307 1E61=73+307 1E62=53+323
  1E63=73+323 1E64=53+301+307 1E65=73+301+307 1E66=53+30C+307 1E67=73+30C+307 1E68=53+323+307
  1E69=73+323+307 1E6A=54+307 1E6B=74+307 1E6C=54+323 1E6D=74+323 1E6E=54+331 1E6F=74+331
  1E70=54+32D 1E71=74+32D 1E72=55+324 1E73=75+324 1E74=55+330 1E75=75+330 1E76=55+32D 1E77=75+32D
  1E78=55+303+301 1E79=75+303+301 1E7A=55+304+308 1E7B=75+304+308 1E7C=56+303 1E7D=76+303
  1E7E=56+323 1E7F=76+323 1E80=57+300 1E81=77+300 1E82=57+301 1E83=77+301 1E84=57+308 1E85=77+308
  1E86=57+307 1E87=77+307 1E88=57+323 1E89=77+323 1E8A=58+307 1E8B=78+307 1E8C=58+308 1E8D=78+308
  1E8E=59+307 1E8F=79+307 1E90=5A+302 1E91=7A+302 1E92=5A+323 1E93=7A+323 1E94=5A+331 1E95=7A+331
  1E96=68+331 1E97=74+308 1E98=77+30A 1E99=79+30A 1E9A=61+2BE 1E9B=73+307 1EA0=41+323 1EA1=61+323
  1EA2=41+309 1EA3=61+309 1EA4=41+302+301 1EA5=61+302+301 1EA6=41+302+300 1EA7=61+302+300
  1EA8=41+302+309 1EA9=61+302+309 1EAA=41+302+303 1EAB=61+302+303 1EAC=41+323+302 1EAD=61+323+302
  1EAE=41+306+301 1EAF=61+306+301 1EB0=41+306+300 1EB1=61+306+300 1EB2=41+306+309 1EB3=61+306+309
  1EB4=41+306+303 1EB5=61+306+303 1EB6=41+323+306 1EB7=61+323+306 1EB8=45+323 1EB9=65+323
  1EBA=45+309 1EBB=65+309 1EBC=45+303 1EBD=65+303 1EBE=45+302+301 1EBF=65+302+301 1EC0=45+302+300
  1EC1=65+302+300 1EC2=45+302+309 1EC3=65+302+309 1EC4=45+302+303 1EC5=65+302+303 1EC6=45+323+302
  1EC7=65+323+302 1EC8=49+309 1EC9=69+309 1ECA=49+323 1ECB=69+323 1ECC=4F+323 1ECD=6F+323
  1ECE=4F+309 1ECF=6F+309 1ED0=4F+302+301 1ED1=6F+302+301 1ED2=4F+302+300 1ED3=6F+302+300
  1ED4=4F+302+309 1ED5=6F+302+309 1ED6=4F+302+303 1ED7=6F+302+303 1ED8=4F+323+302 1ED9=6F+323+302
  1EDA=4F+31B+301 1EDB=6F+31B+301 1EDC=4F+31B+300 1EDD=6F+31B+300 1EDE=4F+31B+309 1EDF=6F+31B+309
  1EE0=4F+31B+303 1EE1=6F+31B+303 1EE2=4F+31B+323 1EE3=6F+31B+323 1EE4=55+323 1EE5=75+323
  1EE6=55+309 1EE7=75+309 1EE8=55+31B+301 1EE9=75+31B+301 1EEA=55+31B+300 1EEB=75+31B+300
  1EEC=55+31B+309 1EED=75+31B+309 1EEE=55+31B+303 1EEF=75+31B+303 1EF0=55+31B+323 1EF1=75+31B+323
  1EF2=59+300 1EF3=79+300 1EF4=59+323 1EF5=79+323 1EF6=59+309 1EF7=79+309 1EF8=59+303 1EF9=79+303
  1F00=3B1+313 1F01=3B1+314 1F02=3B1+313+300 1F03=3B1+314+300 1F04=3B1+313+301 1F05=3B1+314+301
  1F06=3B1+313+342 1F07=3B1+314+342 1F08=391+313 1F09=391+314 1F0A=391+313+300 1F0B=391+314+300
  1F0C=391+313+301 1F0D=391+314+301 1F0E=391+313+342 1F0F=391+314+342 1F10=3B5+313 1F11=3B5+314
  1F12=3B5+313+300 1F13=3B5+314+300 1F14=3B5+313+301 1F15=3B5+314+301 1F18=395+313 1F19=395+314
  1F1A=395+313+300 1F1B=395+314+300 1F1C=395+313+301 1F1D=395+314+301 1F20=3B7+313 1F21=3B7+314
  1F22=3B7+313+300 1F23=3B7+314+300 1F24=3B7+313+301 1F25=3B7+314+301 1F26=3B7+313+342
  1F27=3B7+314+342 1F28=397+313 1F29=397+314 1F2A=397+313+300 1F2B=397+314+300 1F2C=397+313+301
  1F2D=397+314+301 1F2E=397+313+342 1F2F=397+314+342 1F30=3B9+313 1F31=3B9+314 1F32=3B9+313+300
  1F33=3B9+314+300 1F34=3B9+313+301 1F35=3B9+314+301 1F36=3B9+313+342 1F37=3B9+314+342
  1F38=399+313 1F39=399+314 1F3A=399+313+300 1F3B=399+314+300 1F3C=399+313+301 1F3D=399+314+301
  1F3E=399+313+342 1F3F=399+314+342 1F40=3BF+313 1F41=3BF+314 1F42=3BF+313+300 1F43=3BF+314+300
  1F44=3BF+313+301 1F45=3BF+314+301 1F48=39F+313 1F49=39F+314 1F4A=39F+313+300 1F4B=39F+314+300
  1F4C=39F+313+301 1F4D=39F+314+301 1F50=3C5+313 1F51=3C5+314 1F52=3C5+313+300 1F53=3C5+314+300
  1F54=3C5+313+301 1F55=3C5+314+301 1F56=3C5+313+342 1F57=3C5+314+342 1F59=3A5+314
  1F5B=3A5+314+300 1F5D=3A5+314+301 1F5F=3A5+314+342 1F60=3C9+313 1F61=3C9+314 1F62=3C9+313+300
  1F63=3C9+314+300 1F64=3C9+313+301 1F65=3C9+314+301 1F66=3C9+313+342 1F67=3C9+314+342
  1F68=3A9+313 1F69=3A9+314 1F6A=3A9+313+300 1F6B=3A9+314+300 1F6C=3A9+313+301 1F6D=3A9+314+301
  1F6E=3A9+313+342 1F6F=3A9+314+342 1F70=3B1+300 1F71=3B1+301 1F72=3B5+300 1F73=3B5+301
  1F74=3B7+300 1F75=3B7+301 1F76=3B9+300 1F77=3B9+301 1F78=3BF+300 1F79=3BF+301 1F7A=3C5+300
  1F7B=3C5+301 1F7C=3C9+300 1F7D=3C9+301 1F80=3B1+313+345 1F81=3B1+314+345 1F82=3B1+313+300+345
  1F83=3B1+314+300+345 1F84=3B1+313+301+345 1F85=3B1+314+301+345 1F86=3B1+313+342+345
  1F87=3B1+314+342+345 1F88=391+313+345 1F89=391+314+345 1F8A=391+313+300+345 1F8B=391+314+300+345
  1F8C=391+313+301+345 1F8D=391+314+301+345 1F8E=391+313+342+345 1F8F=391+314+342+345
  1F90=3B7+313+345 1F91=3B7+314+345 1F92=3B7+313+300+345 1F93=3B7+314+300+345 1F94=3B7+313+301+345
  1F95=3B7+314+301+345 1F96=3B7+313+342+345 1F97=3B7+314+342+345 1F98=397+313+345 1F99=397+314+345
  1F9A=397+313+300+345 1F9B=397+314+300+345 1F9C=397+313+301+345 1F9D=397+314+301+345
  1F9E=397+313+342+345 1F9F=397+314+342+345 1FA0=3C9+313+345 1FA1=3C9+314+345 1FA2=3C9+313+300+345
  1FA3=3C9+314+300+345 1FA4=3C9+313+301+345 1FA5=3C9+314+301+345 1FA6=3C9+313+342+345
  1FA7=3C9+314+342+345 1FA8=3A9+313+345 1FA9=3A9+314+345 1FAA=3A9+313+300+345 1FAB=3A9+314+300+345
  1FAC=3A9+313+301+345 1FAD=3A9+314+301+345 1FAE=3A9+313+342+345 1FAF=3A9+314+342+345 1FB0=3B1+306
  1FB1=3B1+304 1FB2=3B1+300+345 1FB3=3B1+345 1FB4=3B1+301+345 1FB6=3B1+342 1FB7=3B1+342+345
  1FB8=391+306 1FB9=391+304 1FBA=391+300 1FBB=391+301 1FBC=391+345 1FBE=3B9 1FC2=3B7+300+345
  1FC3=3B7+345 1FC4=3B7+301+345 1FC6=3B7+342 1FC7=3B7+342+345 1FC8=395+300 1FC9=395+301
  1FCA=397+300 1FCB=397+301 1FCC=397+345 1FD0=3B9+306 1FD1=3B9+304 1FD2=3B9+308+300
  1FD3=3B9+308+301 1FD6=3B9+342 1FD7=3B9+308+342 1FD8=399+306 1FD9=399+304 1FDA=399+300
  1FDB=399+301 1FE0=3C5+306 1FE1=3C5+304 1FE2=3C5+308+300 1FE3=3C5+308+301 1FE4=3C1+313
  1FE5=3C1+314 1FE6=3C5+342 1FE7=3C5+308+342 1FE8=3A5+306 1FE9=3A5+304 1FEA=3A5+300 1FEB=3A5+301
  1FEC=3A1+314 1FF2=3C9+300+345 1FF3=3C9+345 1FF4=3C9+301+345 1FF6=3C9+342 1FF7=3C9+342+345
  1FF8=39F+300 1FF9=39F+301 1FFA=3A9+300 1FFB=3A9+301 1FFC=3A9+345 2071=69 207F=6E 2090=61 2091=65
  2092=6F 2093=78 2094=259 2095=68 2096-2099=6B 209A=70 209B-209C=73 2102=43 2107=190 210A=67
  210B=48 210C=48 210D=48 210E=68 210F=127 2110=49 2111=49 2112=4C 2113=6C 2115=4E 2119-211B=50
  211C=52 211D=52 2124=5A 2126=3A9 2128=5A 212A=4B 212B=41+30A 212C-212D=42 212F=65 2130-2131=45
  2133=4D 2134=6F 2135-2138=5D0 2139=69 213C=3C0 213D=3B3 213E=393 213F=3A0 2145=44 2146-2147=64
  2148-2149=69 2160=49 2161=49+49 2162=49+49+49 2163=49+56 2164=56 2165=56+49 2166=56+49+49
  2167=56+49+49+49 2168=49+58 2169=58 216A=58+49 216B=58+49+49 216C=4C 216D-216E=43 216F=4D
  2170=69 2171=69+69 2172=69+69+69 2173=69+76 2174=76 2175=76+69 2176=76+69+69 2177=76+69+69+69
  2178=69+78 2179=78 217A=78+69 217B=78+69+69 217C=6C 217D-217E=63 217F=6D 2C7C=6A 2C7D=56
  2D6F=2D61 3038=5341 3039-303A=5344 304C=304B+3099 304E=304D+3099 3050=304F+3099 3052=3051+3099
  3054=3053+3099 3056=3055+3099 3058=3057+3099 305A=3059+3099 305C=305B+3099 305E=305D+3099
  3060=305F+3099 3062=3061+3099 3065=3064+3099 3067=3066+3099 3069=3068+3099 3070=306F+3099
  3071=306F+309A 3073=3072+3099 3074=3072+309A 3076=3075+3099 3077=3075+309A 3079=3078+3099
  307A=3078+309A 307C=307B+3099 307D=307B+309A 3094=3046+3099 309E=309D+3099 309F=3088+308A
  30AC=30AB+3099 30AE=30AD+3099 30B0=30AF+3099 30B2=30B1+3099 30B4=30B3+3099 30B6=30B5+3099
  30B8=30B7+3099 30BA=30B9+3099 30BC=30BB+3099 30BE=30BD+3099 30C0=30BF+3099 30C2=30C1+3099
  30C5=30C4+3099 30C7=30C6+3099 30C9=30C8+3099 30D0=30CF+3099 30D1=30CF+309A 30D3=30D2+3099
  30D4=30D2+309A 30D6=30D5+3099 30D7=30D5+309A 30D9=30D8+3099 30DA=30D8+309A 30DC=30DB+3099
  30DD=30DB+309A 30F4=30A6+3099 30F7=30EF+3099 30F8=30F0+3099 30F9=30F1+3099 30FA=30F2+3099
  30FE=30FD+3099 30FF=30B3+30C8 3131-3132=1100 3133=11AA 3134=1102 3135-3136=11AC 3137-3139=1103
  313A-313F=11B0 3140=111A 3141-3143=1106 3144=1121 3145-314E=1109 314F-3163=1161 3164=1160
  3165-3166=1114 3167-3168=11C7 3169=11CC 316A=11CE 316B=11D3 316C=11D7 316D=11D9 316E=111C
  316F=11DD 3170=11DF 3171-3172=111D 3173=1120 3174-3175=1122 3176=1127 3177=1129 3178-317C=112B
  317D=1132 317E=1136 317F=1140 3180=1147 3181=114C 3182-3183=11F1 3184-3186=1157 3187-3188=1184
  3189=1188 318A-318B=1191 318C=1194 318D=119E 318E=11A1 A69C=44A A69D=44C A770=A76F A7F2=43
  A7F3=46 A7F4=51 A7F8=126 A7F9=153 AB5C=A727 AB5D=AB37 AB5E=26B AB5F=AB52 AB69=28D FB00=66+66
  FB01=66+69 FB02=66+6C FB03=66+66+69 FB04=66+66+6C FB05=73+74 FB06=73+74 FB13=574+576
  FB14=574+565 FB15=574+56B FB16=57E+576 FB17=574+56D FB1D=5D9+5B4 FB1F=5F2+5B7 FB20=5E2 FB21=5D0
  FB22-FB23=5D3 FB24-FB26=5DB FB27=5E8 FB28=5EA FB2A=5E9+5C1 FB2B=5E9+5C2 FB2C=5E9+5BC+5C1
  FB2D=5E9+5BC+5C2 FB2E=5D0+5B7 FB2F=5D0+5B8 FB30=5D0+5BC FB31=5D1+5BC FB32=5D2+5BC FB33=5D3+5BC
  FB34=5D4+5BC FB35=5D5+5BC FB36=5D6+5BC FB38=5D8+5BC FB39=5D9+5BC FB3A=5DA+5BC FB3B=5DB+5BC
  FB3C=5DC+5BC FB3E=5DE+5BC FB40=5E0+5BC FB41=5E1+5BC FB43=5E3+5BC FB44=5E4+5BC FB46=5E6+5BC
  FB47=5E7+5BC FB48=5E8+5BC FB49=5E9+5BC FB4A=5EA+5BC FB4B=5D5+5B9 FB4C=5D1+5BF FB4D=5DB+5BF
  FB4E=5E4+5BF FB4F=5D0+5DC FB50=671 FB51=671 FB52=67B FB53=67B FB54=67B FB55=67B FB56=67E
  FB57=67E FB58=67E FB59=67E FB5A=680 FB5B=680 FB5C=680 FB5D=680 FB5E=67A FB5F=67A FB60=67A
  FB61=67A FB62=67F FB63=67F FB64=67F FB65=67F FB66=679 FB67=679 FB68=679 FB69=679 FB6A=6A4
  FB6B=6A4 FB6C=6A4 FB6D=6A4 FB6E=6A6 FB6F=6A6 FB70=6A6 FB71=6A6 FB72=684 FB73=684 FB74=684
  FB75=684 FB76=683 FB77=683 FB78=683 FB79=683 FB7A=686 FB7B=686 FB7C=686 FB7D-FB7E=686 FB7F=687
  FB80=687 FB81=687 FB82=68D FB83=68D FB84=68C FB85=68C FB86=68E FB87=68E FB88=688 FB89=688
  FB8A=698 FB8B=698 FB8C=691 FB8D=691 FB8E=6A9 FB8F=6A9 FB90=6A9 FB91=6A9 FB92=6AF FB93=6AF
  FB94=6AF FB95=6AF FB96=6B3 FB97=6B3 FB98=6B3 FB99=6B3 FB9A=6B1 FB9B=6B1 FB9C=6B1 FB9D=6B1
  FB9E=6BA FB9F-FBA0=6BA FBA1=6BB FBA2=6BB FBA3=6BB FBA4=6D5+654 FBA5=6D5+654 FBA6=6C1 FBA7=6C1
  FBA8=6C1 FBA9=6C1 FBAA=6BE FBAB=6BE FBAC=6BE FBAD=6BE FBAE=6D2 FBAF=6D2 FBB0=6D2+654
  FBB1=6D2+654 FBD3=6AD FBD4=6AD FBD5=6AD FBD6=6AD FBD7=6C7 FBD8=6C7 FBD9=6C6 FBDA=6C6 FBDB=6C8
  FBDC=6C8 FBDD=6C7+674 FBDE=6CB FBDF=6CB FBE0=6C5 FBE1=6C5 FBE2=6C9 FBE3=6C9 FBE4=6D0 FBE5=6D0
  FBE6=6D0 FBE7=6D0 FBE8=649 FBE9=649 FBEA=64A+654+627 FBEB=64A+654+627 FBEC=64A+654+6D5
  FBED=64A+654+6D5 FBEE=64A+654+648 FBEF=64A+654+648 FBF0=64A+654+6C7 FBF1=64A+654+6C7
  FBF2=64A+654+6C6 FBF3=64A+654+6C6 FBF4=64A+654+6C8 FBF5=64A+654+6C8 FBF6=64A+654+6D0
  FBF7=64A+654+6D0 FBF8=64A+654+6D0 FBF9=64A+654+649 FBFA=64A+654+649 FBFB=64A+654+649 FBFC=6CC
  FBFD=6CC FBFE=6CC FBFF=6CC FC00=64A+654+62C FC01=64A+654+62D FC02=64A+654+645 FC03=64A+654+649
  FC04=64A+654+64A FC05=628+62C FC06=628+62D FC07=628+62E FC08=628+645 FC09=628+649 FC0A=628+64A
  FC0B=62A+62C FC0C=62A+62D FC0D=62A+62E FC0E=62A+645 FC0F=62A+649 FC10=62A+64A FC11=62B+62C
  FC12=62B+645 FC13=62B+649 FC14=62B+64A FC15=62C+62D FC16=62C+645 FC17=62D+62C FC18=62D+645
  FC19=62E+62C FC1A=62E+62D FC1B=62E+645 FC1C=633+62C FC1D=633+62D FC1E=633+62E FC1F=633+645
  FC20=635+62D FC21=635+645 FC22=636+62C FC23=636+62D FC24=636+62E FC25=636+645 FC26=637+62D
  FC27=637+645 FC28=638+645 FC29=639+62C FC2A=639+645 FC2B=63A+62C FC2C=63A+645 FC2D=641+62C
  FC2E=641+62D FC2F=641+62E FC30=641+645 FC31=641+649 FC32=641+64A FC33=642+62D FC34=642+645
  FC35=642+649 FC36=642+64A FC37=643+627 FC38=643+62C FC39=643+62D FC3A=643+62E FC3B=643+644
  FC3C=643+645 FC3D=643+649 FC3E=643+64A FC3F=644+62C FC40=644+62D FC41=644+62E FC42=644+645
  FC43=644+649 FC44=644+64A FC45=645+62C FC46=645+62D FC47=645+62E FC48=645+645 FC49=645+649
  FC4A=645+64A FC4B=646+62C FC4C=646+62D FC4D=646+62E FC4E=646+645 FC4F=646+649 FC50=646+64A
  FC51=647+62C FC52=647+645 FC53=647+649 FC54=647+64A FC55=64A+62C FC56=64A+62D FC57=64A+62E
  FC58=64A+645 FC59=64A+649 FC5A=64A+64A FC5B=630+670 FC5C=631+670 FC5D=649+670 FC64=64A+654+631
  FC65=64A+654+632 FC66=64A+654+645 FC67=64A+654+646 FC68=64A+654+649 FC69=64A+654+64A
  FC6A=628+631 FC6B=628+632 FC6C=628+645 FC6D=628+646 FC6E=628+649 FC6F=628+64A FC70=62A+631
  FC71=62A+632 FC72=62A+645 FC73=62A+646 FC74=62A+649 FC75=62A+64A FC76=62B+631 FC77=62B+632
  FC78=62B+645 FC79=62B+646 FC7A=62B+649 FC7B=62B+64A FC7C=641+649 FC7D=641+64A FC7E=642+649
  FC7F=642+64A FC80=643+627 FC81=643+644 FC82=643+645 FC83=643+649 FC84=643+64A FC85=644+645
  FC86=644+649 FC87=644+64A FC88=645+627 FC89=645+645 FC8A=646+631 FC8B=646+632 FC8C=646+645
  FC8D=646+646 FC8E=646+649 FC8F=646+64A FC90=649+670 FC91=64A+631 FC92=64A+632 FC93=64A+645
  FC94=64A+646 FC95=64A+649 FC96=64A+64A FC97=64A+654+62C FC98=64A+654+62D FC99=64A+654+62E
  FC9A=64A+654+645 FC9B=64A+654+647 FC9C=628+62C FC9D=628+62D FC9E=628+62E FC9F=628+645
  FCA0=628+647 FCA1=62A+62C FCA2=62A+62D FCA3=62A+62E FCA4=62A+645 FCA5=62A+647 FCA6=62B+645
  FCA7=62C+62D FCA8=62C+645 FCA9=62D+62C FCAA=62D+645 FCAB=62E+62C FCAC=62E+645 FCAD=633+62C
  FCAE=633+62D FCAF=633+62E FCB0=633+645 FCB1=635+62D FCB2=635+62E FCB3=635+645 FCB4=636+62C
  FCB5=636+62D FCB6=636+62E FCB7=636+645 FCB8=637+62D FCB9=638+645 FCBA=639+62C FCBB=639+645
  FCBC=63A+62C FCBD=63A+645 FCBE=641+62C FCBF=641+62D FCC0=641+62E FCC1=641+645 FCC2=642+62D
  FCC3=642+645 FCC4=643+62C FCC5=643+62D FCC6=643+62E FCC7=643+644 FCC8=643+645 FCC9=644+62C
  FCCA=644+62D FCCB=644+62E FCCC=644+645 FCCD=644+647 FCCE=645+62C FCCF=645+62D FCD0=645+62E
  FCD1=645+645 FCD2=646+62C FCD3=646+62D FCD4=646+62E FCD5=646+645 FCD6=646+647 FCD7=647+62C
  FCD8=647+645 FCD9=647+670 FCDA=64A+62C FCDB=64A+62D FCDC=64A+62E FCDD=64A+645 FCDE=64A+647
  FCDF=64A+654+645 FCE0=64A+654+647 FCE1=628+645 FCE2=628+647 FCE3=62A+645 FCE4=62A+647
  FCE5=62B+645 FCE6=62B+647 FCE7=633+645 FCE8=633+647 FCE9=634+645 FCEA=634+647 FCEB=643+644
  FCEC=643+645 FCED=644+645 FCEE=646+645 FCEF=646+647 FCF0=64A+645 FCF1=64A+647 FCF2=640+64E+651
  FCF3=640+64F+651 FCF4=640+650+651 FCF5=637+649 FCF6=637+64A FCF7=639+649 FCF8=639+64A
  FCF9=63A+649 FCFA=63A+64A FCFB=633+649 FCFC=633+64A FCFD=634+649 FCFE=634+64A FCFF=62D+649
  FD00=62D+64A FD01=62C+649 FD02=62C+64A FD03=62E+649 FD04=62E+64A FD05=635+649 FD06=635+64A
  FD07=636+649 FD08=636+64A FD09=634+62C FD0A=634+62D FD0B=634+62E FD0C=634+645 FD0D=634+631
  FD0E=633+631 FD0F=635+631 FD10=636+631 FD11=637+649 FD12=637+64A FD13=639+649 FD14=639+64A
  FD15=63A+649 FD16=63A+64A FD17=633+649 FD18=633+64A FD19=634+649 FD1A=634+64A FD1B=62D+649
  FD1C=62D+64A FD1D=62C+649 FD1E=62C+64A FD1F=62E+649 FD20=62E+64A FD21=635+649 FD22=635+64A
  FD23=636+649 FD24=636+64A FD25=634+62C FD26=634+62D FD27=634+62E FD28=634+645 FD29=634+631
  FD2A=633+631 FD2B=635+631 FD2C=636+631 FD2D=634+62C FD2E=634+62D FD2F=634+62E FD30=634+645
  FD31=633+647 FD32=634+647 FD33=637+645 FD34=633+62C FD35=633+62D FD36=633+62E FD37=634+62C
  FD38=634+62D FD39=634+62E FD3A=637+645 FD3B=638+645 FD3C=627+64B FD3D=627+64B FD50=62A+62C+645
  FD51=62A+62D+62C FD52=62A+62D+62C FD53=62A+62D+645 FD54=62A+62E+645 FD55=62A+645+62C
  FD56=62A+645+62D FD57=62A+645+62E FD58=62C+645+62D FD59=62C+645+62D FD5A=62D+645+64A
  FD5B=62D+645+649 FD5C=633+62D+62C FD5D=633+62C+62D FD5E=633+62C+649 FD5F=633+645+62D
  FD60=633+645+62D FD61=633+645+62C FD62=633+645+645 FD63=633+645+645 FD64=635+62D+62D
  FD65=635+62D+62D FD66=635+645+645 FD67=634+62D+645 FD68=634+62D+645 FD69=634+62C+64A
  FD6A=634+645+62E FD6B=634+645+62E FD6C=634+645+645 FD6D=634+645+645 FD6E=636+62D+649
  FD6F=636+62E+645 FD70=636+62E+645 FD71=637+645+62D FD72=637+645+62D FD73=637+645+645
  FD74=637+645+64A FD75=639+62C+645 FD76=639+645+645 FD77=639+645+645 FD78=639+645+649
  FD79=63A+645+645 FD7A=63A+645+64A FD7B=63A+645+649 FD7C=641+62E+645 FD7D=641+62E+645
  FD7E=642+645+62D FD7F=642+645+645 FD80=644+62D+645 FD81=644+62D+64A FD82=644+62D+649
  FD83=644+62C+62C FD84=644+62C+62C FD85=644+62E+645 FD86=644+62E+645 FD87=644+645+62D
  FD88=644+645+62D FD89=645+62D+62C FD8A=645+62D+645 FD8B=645+62D+64A FD8C=645+62C+62D
  FD8D=645+62C+645 FD8E=645+62E+62C FD8F=645+62E+645 FD92=645+62C+62E FD93=647+645+62C
  FD94=647+645+645 FD95=646+62D+645 FD96=646+62D+649 FD97=646+62C+645 FD98=646+62C+645
  FD99=646+62C+649 FD9A=646+645+64A FD9B=646+645+649 FD9C=64A+645+645 FD9D=64A+645+645
  FD9E=628+62E+64A FD9F=62A+62C+64A FDA0=62A+62C+649 FDA1=62A+62E+64A FDA2=62A+62E+649
  FDA3=62A+645+64A FDA4=62A+645+649 FDA5=62C+645+64A FDA6=62C+62D+649 FDA7=62C+645+649
  FDA8=633+62E+649 FDA9=635+62D+64A FDAA=634+62D+64A FDAB=636+62D+64A FDAC=644+62C+64A
  FDAD=644+645+64A FDAE=64A+62D+64A FDAF=64A+62C+64A FDB0=64A+645+64A FDB1=645+645+64A
  FDB2=642+645+64A FDB3=646+62D+64A FDB4=642+645+62D FDB5=644+62D+645 FDB6=639+645+64A
  FDB7=643+645+64A FDB8=646+62C+62D FDB9=645+62E+64A FDBA=644+62C+645 FDBB=643+645+645
  FDBC=644+62C+645 FDBD=646+62C+62D FDBE=62C+62D+64A FDBF=62D+62C+64A FDC0=645+62C+64A
  FDC1=641+645+64A FDC2=628+62D+64A FDC3=643+645+645 FDC4=639+62C+645 FDC5=635+645+645
  FDC6=633+62E+64A FDC7=646+62C+64A FDF0=635+644+6D2 FDF1=642+644+6D2 FDF2=627+644+644+647
  FDF3=627+643+628+631 FDF4=645+62D+645+62F FDF5=635+644+639+645 FDF6=631+633+648+644
  FDF7=639+644+64A+647 FDF8=648+633+644+645 FDF9=635+644+649 FE33=5F FE34=5F FE4D=5F FE4E=5F
  FE4F=5F FE71=640+64B FE77=640+64E FE79=640+64F FE7B=640+650 FE7D=640+651 FE7F=640+652 FE80=621
  FE81=627+653 FE82=627+653 FE83=627+654 FE84=627+654 FE85=648+654 FE86=648+654 FE87=627+655
  FE88=627+655 FE89=64A+654 FE8A=64A+654 FE8B=64A+654 FE8C=64A+654 FE8D=627 FE8E-FE8F=627 FE90=628
  FE91=628 FE92-FE93=628 FE94-FE95=629 FE96=62A FE97=62A FE98-FE99=62A FE9A=62B FE9B=62B
  FE9C-FE9D=62B FE9E=62C FE9F=62C FEA0-FEA1=62C FEA2=62D FEA3=62D FEA4-FEA5=62D FEA6=62E FEA7=62E
  FEA8-FEA9=62E FEAA-FEAB=62F FEAC-FEAD=630 FEAE-FEAF=631 FEB0-FEB1=632 FEB2=633 FEB3=633
  FEB4-FEB5=633 FEB6=634 FEB7=634 FEB8-FEB9=634 FEBA=635 FEBB=635 FEBC-FEBD=635 FEBE=636 FEBF=636
  FEC0-FEC1=636 FEC2=637 FEC3=637 FEC4-FEC5=637 FEC6=638 FEC7=638 FEC8-FEC9=638 FECA=639 FECB=639
  FECC-FECD=639 FECE=63A FECF=63A FED0=63A FED1=641 FED2=641 FED3=641 FED4-FED5=641 FED6=642
  FED7=642 FED8-FED9=642 FEDA=643 FEDB=643 FEDC-FEDD=643 FEDE=644 FEDF=644 FEE0-FEE1=644 FEE2=645
  FEE3=645 FEE4-FEE5=645 FEE6=646 FEE7=646 FEE8-FEE9=646 FEEA=647 FEEB=647 FEEC-FEED=647
  FEEE-FEEF=648 FEF0-FEF1=649 FEF2=64A FEF3=64A FEF4=64A FEF5=644+627+653 FEF6=644+627+653
  FEF7=644+627+654 FEF8=644+627+654 FEF9=644+627+655 FEFA=644+627+655 FEFB=644+627 FEFC=644+627
  FF10-FF19=30 FF21-FF3A=41 FF3F=5F FF41-FF5A=61 FF66=30F2 FF67=30A1 FF68=30A3 FF69=30A5 FF6A=30A7
  FF6B=30A9 FF6C=30E3 FF6D=30E5 FF6E=30E7 FF6F=30C3 FF70=30FC FF71=30A2 FF72=30A4 FF73=30A6
  FF74=30A8 FF75-FF76=30AA FF77=30AD FF78=30AF FF79=30B1 FF7A=30B3 FF7B=30B5 FF7C=30B7 FF7D=30B9
  FF7E=30BB FF7F=30BD FF80=30BF FF81=30C1 FF82=30C4 FF83=30C6 FF84=30C8 FF85-FF8A=30CA FF8B=30D2
  FF8C=30D5 FF8D=30D8 FF8E=30DB FF8F-FF93=30DE FF94=30E4 FF95=30E6 FF96-FF9B=30E8 FF9C=30EF
  FF9D=30F3 FF9E-FF9F=3099 FFA0=1160 FFA1-FFA2=1100 FFA3=11AA FFA4=1102 FFA5-FFA6=11AC
  FFA7-FFA9=1103 FFAA-FFAF=11B0 FFB0=111A FFB1-FFB3=1106 FFB4=1121 FFB5-FFBE=1109 FFC2-FFC7=1161
  FFCA-FFCF=1167 FFD2-FFD7=116D FFDA-FFDC=1173 10781-10782=2D0 10783=E6 10784=299 10785=253
  10787=2A3 10788=AB66 10789=2A5 1078A=2A4 1078B-1078C=256 1078D=1D91 1078E=258 1078F=25E
  10790=2A9 10791=264 10792=262 10793=260 10794=29B 10795=127 10796=29C 10797=267 10798=284
  10799-1079A=2AA 1079B=26C 1079C=1DF04 1079D=A78E 1079E=26E 1079F=1DF05 107A0=28E 107A1=1DF06
  107A2=F8 107A3-107A4=276 107A5=71 107A6=27A 107A7=1DF08 107A8-107A9=27D 107AA=280 107AB=2A8
  107AC=2A6 107AD=AB67 107AE=2A7 107AF=288 107B0=2C71 107B2=28F 107B3-107B4=2A1 107B5=298
  107B6-107B8=1C0 107B9=1DF0A 107BA=1DF1E 1109A=11099+110BA 1109C=1109B+110BA 110AB=110A5+110BA
  1112E=11131+11127 1112F=11132+11127 1134B=11347+1133E 1134C=11347+11357 114BB=114B9+114BA
  114BC=114B9+114B0 114BE=114B9+114BD 115BA=115B8+115AF 115BB=115B9+115AF 11938=11935+11930
  1D400-1D419=41 1D41A-1D433=61 1D434-1D44D=41 1D44E-1D454=61 1D456-1D467=69 1D468-1D481=41
  1D482-1D49B=61 1D49C=41 1D49E-1D49F=43 1D4A2=47 1D4A5-1D4A6=4A 1D4A9-1D4AC=4E 1D4AE-1D4B5=53
  1D4B6-1D4B9=61 1D4BB=66 1D4BD-1D4C3=68 1D4C5-1D4CF=70 1D4D0-1D4E9=41 1D4EA-1D503=61
  1D504-1D505=41 1D507-1D50A=44 1D50D-1D514=4A 1D516-1D51C=53 1D51E-1D537=61 1D538-1D539=41
  1D53B-1D53E=44 1D540-1D544=49 1D546=4F 1D54A-1D550=53 1D552-1D56B=61 1D56C-1D585=41
  1D586-1D59F=61 1D5A0-1D5B9=41 1D5BA-1D5D3=61 1D5D4-1D5ED=41 1D5EE-1D607=61 1D608-1D621=41
  1D622-1D63B=61 1D63C-1D655=41 1D656-1D66F=61 1D670-1D689=41 1D68A-1D6A3=61 1D6A4=131 1D6A5=237
  1D6A8-1D6B8=391 1D6B9=398 1D6BA-1D6C0=3A3 1D6C2-1D6DA=3B1 1D6DC=3B5 1D6DD=3B8 1D6DE=3BA
  1D6DF=3C6 1D6E0=3C1 1D6E1=3C0 1D6E2-1D6F2=391 1D6F3=398 1D6F4-1D6FA=3A3 1D6FC-1D714=3B1
  1D716=3B5 1D717=3B8 1D718=3BA 1D719=3C6 1D71A=3C1 1D71B=3C0 1D71C-1D72C=391 1D72D=398
  1D72E-1D734=3A3 1D736-1D74E=3B1 1D750=3B5 1D751=3B8 1D752=3BA 1D753=3C6 1D754=3C1 1D755=3C0
  1D756-1D766=391 1D767=398 1D768-1D76E=3A3 1D770-1D788=3B1 1D78A=3B5 1D78B=3B8 1D78C=3BA
  1D78D=3C6 1D78E=3C1 1D78F=3C0 1D790-1D7A0=391 1D7A1=398 1D7A2-1D7A8=3A3 1D7AA-1D7C2=3B1
  1D7C4=3B5 1D7C5=3B8 1D7C6=3BA 1D7C7=3C6 1D7C8=3C1 1D7C9=3C0 1D7CA-1D7CB=3DC 1D7CE-1D7D7=30
  1D7D8-1D7E1=30 1D7E2-1D7EB=30 1D7EC-1D7F5=30 1D7F6-1D7FF=30 1EE00-1EE01=627 1EE02=62C 1EE03=62F
  1EE05=648 1EE06=632 1EE07=62D 1EE08=637 1EE09=64A 1EE0A-1EE0D=643 1EE0E=633 1EE0F=639 1EE10=641
  1EE11=635 1EE12=642 1EE13=631 1EE14=634 1EE15-1EE16=62A 1EE17=62E 1EE18=630 1EE19=636 1EE1A=638
  1EE1B=63A 1EE1C=66E 1EE1D=6BA 1EE1E=6A1 1EE1F=66F 1EE21=628 1EE22=62C 1EE24=647 1EE27=62D
  1EE29=64A 1EE2A-1EE2D=643 1EE2E=633 1EE2F=639 1EE30=641 1EE31=635 1EE32=642 1EE34=634
  1EE35-1EE36=62A 1EE37=62E 1EE39=636 1EE3B=63A 1EE42=62C 1EE47=62D 1EE49=64A 1EE4B=644 1EE4D=646
  1EE4E=633 1EE4F=639 1EE51=635 1EE52=642 1EE54=634 1EE57=62E 1EE59=636 1EE5B=63A 1EE5D=6BA
  1EE5F=66F 1EE61=628 1EE62=62C 1EE64=647 1EE67=62D 1EE68=637 1EE69=64A 1EE6A=643 1EE6C-1EE6D=645
  1EE6E=633 1EE6F=639 1EE70=641 1EE71=635 1EE72=642 1EE74=634 1EE75-1EE76=62A 1EE77=62E 1EE79=636
  1EE7A=638 1EE7B=63A 1EE7C=66E 1EE7E=6A1 1EE80-1EE81=627 1EE82=62C 1EE83=62F 1EE84-1EE85=647
  1EE86=632 1EE87=62D 1EE88=637 1EE89=64A 1EE8B-1EE8D=644 1EE8E=633 1EE8F=639 1EE90=641 1EE91=635
  1EE92=642 1EE93=631 1EE94=634 1EE95-1EE96=62A 1EE97=62E 1EE98=630 1EE99=636 1EE9A=638 1EE9B=63A
  1EEA1=628 1EEA2=62C 1EEA3=62F 1EEA5=648 1EEA6=632 1EEA7=62D 1EEA8=637 1EEA9=64A 1EEAB-1EEAD=644
  1EEAE=633 1EEAF=639 1EEB0=641 1EEB1=635 1EEB2=642 1EEB3=631 1EEB4=634 1EEB5-1EEB6=62A 1EEB7=62E
  1EEB8=630 1EEB9=636 1EEBA=638 1EEBB=63A 1FBF0-1FBF9=30"

/-- What the ideographs from U+F900 on stand for, in their order. -/
def plainIdeographs : String :=
  "豈更車賈滑串句龜龜契金喇奈懶癩羅蘿螺裸邏樂洛烙珞落酪駱亂卵欄爛蘭鸞嵐濫藍襤拉臘蠟廊朗浪狼郎來冷勞
  擄櫓爐盧老蘆虜路露魯鷺碌祿綠菉錄鹿論壟弄籠聾牢磊賂雷壘屢樓淚漏累縷陋勒肋凜凌稜綾菱陵讀拏樂諾丹寧
  怒率異北磻便復不泌數索參塞省葉說殺辰沈拾若掠略亮兩凉梁糧良諒量勵呂女廬旅濾礪閭驪麗黎力曆歷轢年憐
  戀撚漣煉璉秊練聯輦蓮連鍊列劣咽烈裂說廉念捻殮簾獵令囹寧嶺怜玲瑩羚聆鈴零靈領例禮醴隸惡了僚寮尿料樂
  燎療蓼遼龍暈阮劉杻柳流溜琉留硫紐類六戮陸倫崙淪輪律慄栗率隆利吏履易李梨泥理痢罹裏裡里離匿溺吝燐璘
  藺隣鱗麟林淋臨立笠粒狀炙識什茶刺切度拓糖宅洞暴輻行降見廓兀嗀﨎﨏塚﨑晴﨓﨔凞猪益礼神祥福靖精羽﨟
  蘒﨡諸﨣﨤逸都﨧﨨﨩飯飼館鶴郞隷侮僧免勉勤卑喝嘆器塀墨層屮悔慨憎懲敏既暑梅海渚漢煮爫琢碑社祉祈祐
  祖祝禍禎穀突節練縉繁署者臭艹艹著褐視謁謹賓贈辶逸難響頻恵𤋮舘﩮﩯並况全侀充冀勇勺喝啕喙嗢塚墳奄奔
  婢嬨廒廙彩徭惘慎愈憎慠懲戴揄搜摒敖晴朗望杖歹殺流滛滋漢瀞煮瞧爵犯猪瑱甆画瘝瘟益盛直睊着磌窱節类絛
  練缾者荒華蝹襁覆視調諸請謁諾諭謹變贈輸遲醙鉶陼難靖韛響頋頻鬒龜𢡊𢡄𣏕㮝䀘䀹𥉉𥳐𧻓齃龎"

/-- What the ideographs from U+2F800 on stand for, in their order. -/
def plainSupplements : String :=
  "丽丸乁𠄢你侮侻倂偺備僧像㒞𠘺免兔兤具𠔜㒹內再𠕋冗冤仌冬况𩇟凵刃㓟刻剆割剷㔕勇勉勤勺包匆北卉卑博即
  卽卿卿卿𠨬灰及叟𠭣叫叱吆咞吸呈周咢哶唐啓啣善善喙喫喳嗂圖嘆圗噑噴切壮城埴堍型堲報墬𡓤売壷夆多夢奢
  𡚨𡛪姬娛娧姘婦㛮㛼嬈嬾嬾𡧈寃寘寧寳𡬘寿将当尢㞁屠屮峀岍𡷤嵃𡷦嵮嵫嵼巡巢㠯巽帨帽幩㡢𢆃㡼庰庳庶廊𪎒
  廾𢌱𢌱舁弢弢㣇𣊸𦇚形彫㣣徚忍志忹悁㤺㤜悔𢛔惇慈慌慎慌慺憎憲憤憯懞懲懶成戛扝抱拔捐𢬌挽拼捨掃揤𢯱搢
  揅掩㨮摩摾撝摷㩬敏敬𣀊旣書晉㬙暑㬈㫤冒冕最暜肭䏙朗望朡杞杓𣏃㭉柺枅桒梅𣑭梎栟椔㮝楂榣槪檨𣚣櫛㰘次
  𣢧歔㱎歲殟殺殻𣪍𡴋𣫺汎𣲼沿泍汧洖派海流浩浸涅𣴞洴港湮㴳滋滇𣻑淹潮𣽞𣾎濆瀹瀞瀛㶖灊災灷炭𠔥煅𤉣熜𤎫
  爨爵牐𤘈犀犕𤜵𤠔獺王㺬玥㺸㺸瑇瑜瑱璅瓊㼛甤𤰶甾𤲒異𢆟瘐𤾡𤾸𥁄㿼䀈直𥃳𥃲𥄙𥄳眞真真睊䀹瞋䁆䂖𥐝硎碌
  磌䃣𥘦祖𥚚𥛅福秫䄯穀穊穏𥥼𥪧𥪧竮䈂𥮫篆築䈧𥲀糒䊠糨糣紀𥾆絣䌁緇縂繅䌴𦈨𦉇䍙𦋙罺𦌾羕翺者𦓚𦔣聠𦖨聰
  𣍟䏕育脃䐋脾媵𦞧𦞵𣎓𣎜舁舄辞䑫芑芋芝劳花芳芽苦𦬼若茝荣莭茣莽菧著荓菊菌菜𦰶𦵫𦳕䔫蓱蓳蔖𧏊蕤𦼬䕝䕡
  𦾱𧃒䕫虐虜虧虩蚩蚈蜎蛢蝹蜨蝫螆䗗蟡蠁䗹衠衣𧙧裗裞䘵裺㒻𧢮𧥦䚾䛇誠諭變豕𧲨貫賁贛起𧼯𠠄跋趼跰𠣞軔輸
  𨗒𨗭邔郱鄑𨜮鄛鈸鋗鋘鉼鏹鐕𨯺開䦕閷𨵷䧦雃嶲霣𩅅𩈚䩮䩶韠𩐊䪲𩒖頋頋頩𩖶飢䬳餩馧駂駾䯎𩬰鬒鱀鳽䳎䳭鵧
  𪃎䳸𪄅𪈎𪊑麻䵖黹黾鼅鼏鼖鼻𪘀"

/-- Marks by their place among the marks on a letter: first, last, place. -/
def markPlaces : Array (Nat × Nat × Nat) := #[
  (768, 788, 230), (789, 789, 232), (790, 793, 220), (794, 794, 232), (795, 795, 216), (796, 800,
  220), (801, 802, 202), (803, 806, 220), (807, 808, 202), (809, 819, 220), (820, 824, 1), (825,
  828, 220), (829, 836, 230), (837, 837, 240), (838, 838, 230), (839, 841, 220), (842, 844, 230),
  (845, 846, 220), (848, 850, 230), (851, 854, 220), (855, 855, 230), (856, 856, 232), (857, 858,
  220), (859, 859, 230), (860, 860, 233), (861, 862, 234), (863, 863, 233), (864, 865, 234), (866,
  866, 233), (867, 879, 230), (1155, 1159, 230), (1425, 1425, 220), (1426, 1429, 230), (1430, 1430,
  220), (1431, 1433, 230), (1434, 1434, 222), (1435, 1435, 220), (1436, 1441, 230), (1442, 1447,
  220), (1448, 1449, 230), (1450, 1450, 220), (1451, 1452, 230), (1453, 1453, 222), (1454, 1454,
  228), (1455, 1455, 230), (1456, 1456, 10), (1457, 1457, 11), (1458, 1458, 12), (1459, 1459, 13),
  (1460, 1460, 14), (1461, 1461, 15), (1462, 1462, 16), (1463, 1463, 17), (1464, 1464, 18), (1465,
  1466, 19), (1467, 1467, 20), (1468, 1468, 21), (1469, 1469, 22), (1471, 1471, 23), (1473, 1473,
  24), (1474, 1474, 25), (1476, 1476, 230), (1477, 1477, 220), (1479, 1479, 18), (1552, 1559, 230),
  (1560, 1560, 30), (1561, 1561, 31), (1562, 1562, 32), (1611, 1611, 27), (1612, 1612, 28), (1613,
  1613, 29), (1614, 1614, 30), (1615, 1615, 31), (1616, 1616, 32), (1617, 1617, 33), (1618, 1618,
  34), (1619, 1620, 230), (1621, 1622, 220), (1623, 1627, 230), (1628, 1628, 220), (1629, 1630,
  230), (1631, 1631, 220), (1648, 1648, 35), (1750, 1756, 230), (1759, 1762, 230), (1763, 1763,
  220), (1764, 1764, 230), (1767, 1768, 230), (1770, 1770, 220), (1771, 1772, 230), (1773, 1773,
  220), (1809, 1809, 36), (1840, 1840, 230), (1841, 1841, 220), (1842, 1843, 230), (1844, 1844,
  220), (1845, 1846, 230), (1847, 1849, 220), (1850, 1850, 230), (1851, 1852, 220), (1853, 1853,
  230), (1854, 1854, 220), (1855, 1857, 230), (1858, 1858, 220), (1859, 1859, 230), (1860, 1860,
  220), (1861, 1861, 230), (1862, 1862, 220), (1863, 1863, 230), (1864, 1864, 220), (1865, 1866,
  230), (2027, 2033, 230), (2034, 2034, 220), (2035, 2035, 230), (2045, 2045, 220), (2070, 2073,
  230), (2075, 2083, 230), (2085, 2087, 230), (2089, 2093, 230), (2137, 2139, 220), (2200, 2200,
  230), (2201, 2203, 220), (2204, 2207, 230), (2250, 2254, 230), (2255, 2259, 220), (2260, 2273,
  230), (2275, 2275, 220), (2276, 2277, 230), (2278, 2278, 220), (2279, 2280, 230), (2281, 2281,
  220), (2282, 2284, 230), (2285, 2287, 220), (2288, 2288, 27), (2289, 2289, 28), (2290, 2290, 29),
  (2291, 2293, 230), (2294, 2294, 220), (2295, 2296, 230), (2297, 2298, 220), (2299, 2303, 230),
  (2364, 2364, 7), (2381, 2381, 9), (2385, 2385, 230), (2386, 2386, 220), (2387, 2388, 230), (2492,
  2492, 7), (2509, 2509, 9), (2558, 2558, 230), (2620, 2620, 7), (2637, 2637, 9), (2748, 2748, 7),
  (2765, 2765, 9), (2876, 2876, 7), (2893, 2893, 9), (3021, 3021, 9), (3132, 3132, 7), (3149, 3149,
  9), (3157, 3157, 84), (3158, 3158, 91), (3260, 3260, 7), (3277, 3277, 9), (3387, 3388, 9), (3405,
  3405, 9), (3530, 3530, 9), (3640, 3641, 103), (3642, 3642, 9), (3656, 3659, 107), (3768, 3769,
  118), (3770, 3770, 9), (3784, 3787, 122), (3864, 3865, 220), (3893, 3893, 220), (3895, 3895, 220),
  (3897, 3897, 216), (3953, 3953, 129), (3954, 3954, 130), (3956, 3956, 132), (3962, 3965, 130),
  (3968, 3968, 130), (3970, 3971, 230), (3972, 3972, 9), (3974, 3975, 230), (4038, 4038, 220),
  (4151, 4151, 7), (4153, 4154, 9), (4237, 4237, 220), (4957, 4959, 230), (5908, 5909, 9), (5940,
  5940, 9), (6098, 6098, 9), (6109, 6109, 230), (6313, 6313, 228), (6457, 6457, 222), (6458, 6458,
  230), (6459, 6459, 220), (6679, 6679, 230), (6680, 6680, 220), (6752, 6752, 9), (6773, 6780, 230),
  (6783, 6783, 220), (6832, 6836, 230), (6837, 6842, 220), (6843, 6844, 230), (6845, 6845, 220),
  (6847, 6848, 220), (6849, 6850, 230), (6851, 6852, 220), (6853, 6857, 230), (6858, 6858, 220),
  (6859, 6862, 230), (6964, 6964, 7), (6980, 6980, 9), (7019, 7019, 230), (7020, 7020, 220), (7021,
  7027, 230), (7082, 7083, 9), (7142, 7142, 7), (7154, 7155, 9), (7223, 7223, 7), (7376, 7378, 230),
  (7380, 7380, 1), (7381, 7385, 220), (7386, 7387, 230), (7388, 7391, 220), (7392, 7392, 230),
  (7394, 7400, 1), (7405, 7405, 220), (7412, 7412, 230), (7416, 7417, 230), (7616, 7617, 230),
  (7618, 7618, 220), (7619, 7625, 230), (7626, 7626, 220), (7627, 7628, 230), (7629, 7629, 234),
  (7630, 7630, 214), (7631, 7631, 220), (7632, 7632, 202), (7633, 7669, 230), (7670, 7670, 232),
  (7671, 7672, 228), (7673, 7673, 220), (7674, 7674, 218), (7675, 7675, 230), (7676, 7676, 233),
  (7677, 7677, 220), (7678, 7678, 230), (7679, 7679, 220), (8400, 8401, 230), (8402, 8403, 1),
  (8404, 8407, 230), (8408, 8410, 1), (8411, 8412, 230), (8417, 8417, 230), (8421, 8422, 1), (8423,
  8423, 230), (8424, 8424, 220), (8425, 8425, 230), (8426, 8427, 1), (8428, 8431, 220), (8432, 8432,
  230), (11503, 11505, 230), (11647, 11647, 9), (11744, 11775, 230), (12330, 12330, 218), (12331,
  12331, 228), (12332, 12332, 232), (12333, 12333, 222), (12334, 12335, 224), (12441, 12442, 8),
  (42607, 42607, 230), (42612, 42621, 230), (42654, 42655, 230), (42736, 42737, 230), (43014, 43014,
  9), (43052, 43052, 9), (43204, 43204, 9), (43232, 43249, 230), (43307, 43309, 220), (43347, 43347,
  9), (43443, 43443, 7), (43456, 43456, 9), (43696, 43696, 230), (43698, 43699, 230), (43700, 43700,
  220), (43703, 43704, 230), (43710, 43711, 230), (43713, 43713, 230), (43766, 43766, 9), (44013,
  44013, 9), (64286, 64286, 26), (65056, 65062, 230), (65063, 65069, 220), (65070, 65071, 230),
  (66045, 66045, 220), (66272, 66272, 220), (66422, 66426, 230), (68109, 68109, 220), (68111, 68111,
  230), (68152, 68152, 230), (68153, 68153, 1), (68154, 68154, 220), (68159, 68159, 9), (68325,
  68325, 230), (68326, 68326, 220), (68900, 68903, 230), (69291, 69292, 230), (69446, 69447, 220),
  (69448, 69450, 230), (69451, 69451, 220), (69452, 69452, 230), (69453, 69456, 220), (69506, 69506,
  230), (69507, 69507, 220), (69508, 69508, 230), (69509, 69509, 220), (69702, 69702, 9), (69744,
  69744, 9), (69759, 69759, 9), (69817, 69817, 9), (69818, 69818, 7), (69888, 69890, 230), (69939,
  69940, 9), (70003, 70003, 7), (70080, 70080, 9), (70090, 70090, 7), (70197, 70197, 9), (70198,
  70198, 7), (70377, 70377, 7), (70378, 70378, 9), (70459, 70460, 7), (70477, 70477, 9), (70502,
  70508, 230), (70512, 70516, 230), (70722, 70722, 9), (70726, 70726, 7), (70750, 70750, 230),
  (70850, 70850, 9), (70851, 70851, 7), (71103, 71103, 9), (71104, 71104, 7), (71231, 71231, 9),
  (71350, 71350, 9), (71351, 71351, 7), (71467, 71467, 9), (71737, 71737, 9), (71738, 71738, 7),
  (71997, 71998, 9), (72003, 72003, 7), (72160, 72160, 9), (72244, 72244, 9), (72263, 72263, 9),
  (72345, 72345, 9), (72767, 72767, 9), (73026, 73026, 7), (73028, 73029, 9), (73111, 73111, 9),
  (92912, 92916, 1), (92976, 92982, 230), (94192, 94193, 6), (113822, 113822, 1), (119141, 119142,
  216), (119143, 119145, 1), (119149, 119149, 226), (119150, 119154, 216), (119163, 119170, 220),
  (119173, 119177, 230), (119178, 119179, 220), (119210, 119213, 230), (119362, 119364, 230),
  (122880, 122886, 230), (122888, 122904, 230), (122907, 122913, 230), (122915, 122916, 230),
  (122918, 122922, 230), (123184, 123190, 230), (123566, 123566, 230), (123628, 123631, 230),
  (125136, 125142, 220), (125252, 125257, 230), (125258, 125258, 7)]

def hexValue (cs : List Char) : Nat :=
  cs.foldl (fun n c => n * 16 + (if c.isDigit then c.toNat - 48 else c.toNat - 55)) 0

/-- A range of code points and what they are made of. -/
structure PlainEntry where
  first : Nat
  last : Nat
  parts : List Nat

def PlainEntry.ofText (cs : List Char) : PlainEntry :=
  let range := (cs.takeWhile (· != '=')).splitOn '-' |>.map hexValue
  let parts := ((cs.dropWhile (· != '=')).drop 1).splitOn '+' |>.map hexValue
  ⟨range.headD 0, range.getLastD 0, parts⟩

def plainEntries : Array PlainEntry :=
  let entries := plainParts.toList.splitOnP fun c => c == ' ' || c == '\n'
  ((entries.filter (· ≠ [])).map PlainEntry.ofText).toArray

/-- The ideograph for a code point in lines of those from `first` on. -/
def listed? (first : Nat) (lines : String) (c : Nat) : Option Nat :=
  let ideographs := lines.toList.filter fun ch => ch != ' ' && ch != '\n'
  if first ≤ c then (ideographs[c - first]?).map Char.toNat else none

/-- The letters of a syllable of Hangul, which follow from its number among the syllables. -/
def syllableParts? (c : Nat) : Option (List Nat) :=
  if 0xac00 ≤ c ∧ c ≤ 0xd7a3 then
    let n := c - 0xac00
    let beginning := [0x1100 + n / 588, 0x1161 + n % 588 / 28]
    some (if n % 28 = 0 then beginning else beginning ++ [0x11a7 + n % 28])
  else none

/-- The code points of the plain characters that a character is made of. -/
def plainCodes (c : Nat) : List Nat :=
  let ideograph := listed? 0xf900 plainIdeographs c <|> listed? 0x2f800 plainSupplements c
  match ideograph, syllableParts? c with
  | some n, _ => [n]
  | none, some letters => letters
  | none, none =>
    match search (fun e => (e.first, e.last)) plainEntries c 0 plainEntries.size with
    | some ⟨first, last, parts⟩ => if first = last then parts else parts.map (· + (c - first))
    | none => [c]

/-- The place of a mark among the marks on a letter, zero for anything else. -/
def markPlace (c : Char) : Nat :=
  match search (fun e => (e.1, e.2.1)) markPlaces c.toNat 0 markPlaces.size with
  | some (_, _, place) => place
  | none => 0

/-- Puts a mark behind the marks that follow it but have an earlier place. -/
def insertMark (c : Char) : List Char → List Char
  | [] => [c]
  | d :: rest =>
    if markPlace d ≠ 0 ∧ markPlace d < markPlace c then d :: insertMark c rest else c :: d :: rest

/-- The form that texts share if they differ only in how their characters are put together. -/
def plainForm (s : String) : String :=
  let parts := s.toList.flatMap fun c =>
    if c.toNat < 128 then [c] else (plainCodes c.toNat).map Char.ofNat
  String.ofList (parts.foldr insertMark [])

end BuildScript.Text
