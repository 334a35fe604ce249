/-!
# Joining of characters

How characters join with their neighbours in cursive scripts. Rows are separated by white space and
the hexadecimal numbers of a row by commas.
-/

namespace Checkup.Unicode

/-- Runs `first, last, joining`: 1 is transparent, 2 joins to the left, 3 to the right, 4 to both
sides and 5 causes joining. -/
def joiningRuns : String := "
  AD,AD,1 300,36F,1 483,489,1 591,5BD,1 5BF,5BF,1 5C1,5C2,1 5C4,5C5,1 5C7,5C7,1 610,61A,1 61C,61C,1
  620,620,4 622,625,3 626,626,4 627,627,3 628,628,4 629,629,3 62A,62E,4 62F,632,3 633,63F,4
  640,640,5 641,647,4 648,648,3 649,64A,4 64B,65F,1 66E,66F,4 670,670,1 671,673,3 675,677,3
  678,687,4 688,699,3 69A,6BF,4 6C0,6C0,3 6C1,6C2,4 6C3,6CB,3 6CC,6CC,4 6CD,6CD,3 6CE,6CE,4
  6CF,6CF,3 6D0,6D1,4 6D2,6D3,3 6D5,6D5,3 6D6,6DC,1 6DF,6E4,1 6E7,6E8,1 6EA,6ED,1 6EE,6EF,3
  6FA,6FC,4 6FF,6FF,4 70F,70F,1 710,710,3 711,711,1 712,714,4 715,719,3 71A,71D,4 71E,71E,3
  71F,727,4 728,728,3 729,729,4 72A,72A,3 72B,72B,4 72C,72C,3 72D,72E,4 72F,72F,3 730,74A,1
  74D,74D,3 74E,758,4 759,75B,3 75C,76A,4 76B,76C,3 76D,770,4 771,771,3 772,772,4 773,774,3
  775,777,4 778,779,3 77A,77F,4 7A6,7B0,1 7CA,7EA,4 7EB,7F3,1 7FA,7FA,5 7FD,7FD,1 816,819,1
  81B,823,1 825,827,1 829,82D,1 840,840,3 841,845,4 846,847,3 848,848,4 849,849,3 84A,853,4
  854,854,3 855,855,4 856,858,3 859,85B,1 860,860,4 862,865,4 867,867,3 868,868,4 869,86A,3
  870,882,3 883,885,5 886,886,4 889,88D,4 88E,88E,3 898,89F,1 8A0,8A9,4 8AA,8AC,3 8AE,8AE,3
  8AF,8B0,4 8B1,8B2,3 8B3,8B8,4 8B9,8B9,3 8BA,8C8,4 8CA,8E1,1 8E3,902,1 93A,93A,1 93C,93C,1
  941,948,1 94D,94D,1 951,957,1 962,963,1 981,981,1 9BC,9BC,1 9C1,9C4,1 9CD,9CD,1 9E2,9E3,1
  9FE,9FE,1 A01,A02,1 A3C,A3C,1 A41,A42,1 A47,A48,1 A4B,A4D,1 A51,A51,1 A70,A71,1 A75,A75,1
  A81,A82,1 ABC,ABC,1 AC1,AC5,1 AC7,AC8,1 ACD,ACD,1 AE2,AE3,1 AFA,AFF,1 B01,B01,1 B3C,B3C,1
  B3F,B3F,1 B41,B44,1 B4D,B4D,1 B55,B56,1 B62,B63,1 B82,B82,1 BC0,BC0,1 BCD,BCD,1 C00,C00,1
  C04,C04,1 C3C,C3C,1 C3E,C40,1 C46,C48,1 C4A,C4D,1 C55,C56,1 C62,C63,1 C81,C81,1 CBC,CBC,1
  CBF,CBF,1 CC6,CC6,1 CCC,CCD,1 CE2,CE3,1 D00,D01,1 D3B,D3C,1 D41,D44,1 D4D,D4D,1 D62,D63,1
  D81,D81,1 DCA,DCA,1 DD2,DD4,1 DD6,DD6,1 E31,E31,1 E34,E3A,1 E47,E4E,1 EB1,EB1,1 EB4,EBC,1
  EC8,ECE,1 F18,F19,1 F35,F35,1 F37,F37,1 F39,F39,1 F71,F7E,1 F80,F84,1 F86,F87,1 F8D,F97,1
  F99,FBC,1 FC6,FC6,1 102D,1030,1 1032,1037,1 1039,103A,1 103D,103E,1 1058,1059,1 105E,1060,1
  1071,1074,1 1082,1082,1 1085,1086,1 108D,108D,1 109D,109D,1 135D,135F,1 1712,1714,1 1732,1733,1
  1752,1753,1 1772,1773,1 17B4,17B5,1 17B7,17BD,1 17C6,17C6,1 17C9,17D3,1 17DD,17DD,1 1807,1807,4
  180A,180A,5 180B,180D,1 180F,180F,1 1820,1878,4 1885,1886,1 1887,18A8,4 18A9,18A9,1 18AA,18AA,4
  1920,1922,1 1927,1928,1 1932,1932,1 1939,193B,1 1A17,1A18,1 1A1B,1A1B,1 1A56,1A56,1 1A58,1A5E,1
  1A60,1A60,1 1A62,1A62,1 1A65,1A6C,1 1A73,1A7C,1 1A7F,1A7F,1 1AB0,1ACE,1 1B00,1B03,1 1B34,1B34,1
  1B36,1B3A,1 1B3C,1B3C,1 1B42,1B42,1 1B6B,1B73,1 1B80,1B81,1 1BA2,1BA5,1 1BA8,1BA9,1 1BAB,1BAD,1
  1BE6,1BE6,1 1BE8,1BE9,1 1BED,1BED,1 1BEF,1BF1,1 1C2C,1C33,1 1C36,1C37,1 1CD0,1CD2,1 1CD4,1CE0,1
  1CE2,1CE8,1 1CED,1CED,1 1CF4,1CF4,1 1CF8,1CF9,1 1DC0,1DFF,1 200B,200B,1 200D,200D,5 200E,200F,1
  202A,202E,1 2060,2064,1 206A,206F,1 20D0,20F0,1 2CEF,2CF1,1 2D7F,2D7F,1 2DE0,2DFF,1 302A,302D,1
  3099,309A,1 A66F,A672,1 A674,A67D,1 A69E,A69F,1 A6F0,A6F1,1 A802,A802,1 A806,A806,1 A80B,A80B,1
  A825,A826,1 A82C,A82C,1 A840,A871,4 A872,A872,2 A8C4,A8C5,1 A8E0,A8F1,1 A8FF,A8FF,1 A926,A92D,1
  A947,A951,1 A980,A982,1 A9B3,A9B3,1 A9B6,A9B9,1 A9BC,A9BD,1 A9E5,A9E5,1 AA29,AA2E,1 AA31,AA32,1
  AA35,AA36,1 AA43,AA43,1 AA4C,AA4C,1 AA7C,AA7C,1 AAB0,AAB0,1 AAB2,AAB4,1 AAB7,AAB8,1 AABE,AABF,1
  AAC1,AAC1,1 AAEC,AAED,1 AAF6,AAF6,1 ABE5,ABE5,1 ABE8,ABE8,1 ABED,ABED,1 FB1E,FB1E,1 FE00,FE0F,1
  FE20,FE2F,1 FEFF,FEFF,1 FFF9,FFFB,1 101FD,101FD,1 102E0,102E0,1 10376,1037A,1 10A01,10A03,1
  10A05,10A06,1 10A0C,10A0F,1 10A38,10A3A,1 10A3F,10A3F,1 10AC0,10AC4,4 10AC5,10AC5,3 10AC7,10AC7,3
  10AC9,10ACA,3 10ACD,10ACD,2 10ACE,10AD2,3 10AD3,10AD6,4 10AD7,10AD7,2 10AD8,10ADC,4 10ADD,10ADD,3
  10ADE,10AE0,4 10AE1,10AE1,3 10AE4,10AE4,3 10AE5,10AE6,1 10AEB,10AEE,4 10AEF,10AEF,3 10B80,10B80,4
  10B81,10B81,3 10B82,10B82,4 10B83,10B85,3 10B86,10B88,4 10B89,10B89,3 10B8A,10B8B,4 10B8C,10B8C,3
  10B8D,10B8D,4 10B8E,10B8F,3 10B90,10B90,4 10B91,10B91,3 10BA9,10BAC,3 10BAD,10BAE,4 10D00,10D00,2
  10D01,10D21,4 10D22,10D22,3 10D23,10D23,4 10D24,10D27,1 10EAB,10EAC,1 10EFD,10EFF,1 10F30,10F32,4
  10F33,10F33,3 10F34,10F44,4 10F46,10F50,1 10F51,10F53,4 10F54,10F54,3 10F70,10F73,4 10F74,10F75,3
  10F76,10F81,4 10F82,10F85,1 10FB0,10FB0,4 10FB2,10FB3,4 10FB4,10FB6,3 10FB8,10FB8,4 10FB9,10FBA,3
  10FBB,10FBC,4 10FBD,10FBD,3 10FBE,10FBF,4 10FC1,10FC1,4 10FC2,10FC3,3 10FC4,10FC4,4 10FC9,10FC9,3
  10FCA,10FCA,4 10FCB,10FCB,2 11001,11001,1 11038,11046,1 11070,11070,1 11073,11074,1 1107F,11081,1
  110B3,110B6,1 110B9,110BA,1 110C2,110C2,1 11100,11102,1 11127,1112B,1 1112D,11134,1 11173,11173,1
  11180,11181,1 111B6,111BE,1 111C9,111CC,1 111CF,111CF,1 1122F,11231,1 11234,11234,1 11236,11237,1
  1123E,1123E,1 11241,11241,1 112DF,112DF,1 112E3,112EA,1 11300,11301,1 1133B,1133C,1 11340,11340,1
  11366,1136C,1 11370,11374,1 11438,1143F,1 11442,11444,1 11446,11446,1 1145E,1145E,1 114B3,114B8,1
  114BA,114BA,1 114BF,114C0,1 114C2,114C3,1 115B2,115B5,1 115BC,115BD,1 115BF,115C0,1 115DC,115DD,1
  11633,1163A,1 1163D,1163D,1 1163F,11640,1 116AB,116AB,1 116AD,116AD,1 116B0,116B5,1 116B7,116B7,1
  1171D,1171F,1 11722,11725,1 11727,1172B,1 1182F,11837,1 11839,1183A,1 1193B,1193C,1 1193E,1193E,1
  11943,11943,1 119D4,119D7,1 119DA,119DB,1 119E0,119E0,1 11A01,11A0A,1 11A33,11A38,1 11A3B,11A3E,1
  11A47,11A47,1 11A51,11A56,1 11A59,11A5B,1 11A8A,11A96,1 11A98,11A99,1 11C30,11C36,1 11C38,11C3D,1
  11C3F,11C3F,1 11C92,11CA7,1 11CAA,11CB0,1 11CB2,11CB3,1 11CB5,11CB6,1 11D31,11D36,1 11D3A,11D3A,1
  11D3C,11D3D,1 11D3F,11D45,1 11D47,11D47,1 11D90,11D91,1 11D95,11D95,1 11D97,11D97,1 11EF3,11EF4,1
  11F00,11F01,1 11F36,11F3A,1 11F40,11F40,1 11F42,11F42,1 13430,13440,1 13447,13455,1 16AF0,16AF4,1
  16B30,16B36,1 16F4F,16F4F,1 16F8F,16F92,1 16FE4,16FE4,1 1BC9D,1BC9E,1 1BCA0,1BCA3,1 1CF00,1CF2D,1
  1CF30,1CF46,1 1D167,1D169,1 1D173,1D182,1 1D185,1D18B,1 1D1AA,1D1AD,1 1D242,1D244,1 1DA00,1DA36,1
  1DA3B,1DA6C,1 1DA75,1DA75,1 1DA84,1DA84,1 1DA9B,1DA9F,1 1DAA1,1DAAF,1 1E000,1E006,1 1E008,1E018,1
  1E01B,1E021,1 1E023,1E024,1 1E026,1E02A,1 1E08F,1E08F,1 1E130,1E136,1 1E2AE,1E2AE,1 1E2EC,1E2EF,1
  1E4EC,1E4EF,1 1E8D0,1E8D6,1 1E900,1E943,4 1E944,1E94B,1 E0001,E0001,1 E0020,E007F,1 E0100,E01EF,1"

/-- The boundaries of the combining marks. -/
def markPoints : String := "
  300 370 483 48A 591 5BE 5BF 5C0 5C1 5C3 5C4 5C6 5C7 5C8 610 61B 64B 660 670 671 6D6 6DD 6DF 6E5
  6E7 6E9 6EA 6EE 711 712 730 74B 7A6 7B1 7EB 7F4 7FD 7FE 816 81A 81B 824 825 828 829 82E 859 85C
  898 8A0 8CA 8E2 8E3 904 93A 93D 93E 950 951 958 962 964 981 984 9BC 9BD 9BE 9C5 9C7 9C9 9CB 9CE
  9D7 9D8 9E2 9E4 9FE 9FF A01 A04 A3C A3D A3E A43 A47 A49 A4B A4E A51 A52 A70 A72 A75 A76 A81 A84
  ABC ABD ABE AC6 AC7 ACA ACB ACE AE2 AE4 AFA B00 B01 B04 B3C B3D B3E B45 B47 B49 B4B B4E B55 B58
  B62 B64 B82 B83 BBE BC3 BC6 BC9 BCA BCE BD7 BD8 C00 C05 C3C C3D C3E C45 C46 C49 C4A C4E C55 C57
  C62 C64 C81 C84 CBC CBD CBE CC5 CC6 CC9 CCA CCE CD5 CD7 CE2 CE4 D00 D04 D3B D3D D3E D45 D46 D49
  D4A D4E D57 D58 D62 D64 D81 D84 DCA DCB DCF DD5 DD6 DD7 DD8 DE0 DF2 DF4 E31 E32 E34 E3B E47 E4F
  EB1 EB2 EB4 EBD EC8 ECE F18 F1A F35 F36 F37 F38 F39 F3A F3E F40 F71 F85 F86 F88 F8D F98 F99 FBD
  FC6 FC7 102B 103F 1056 105A 105E 1061 1062 1065 1067 106E 1071 1075 1082 108E 108F 1090 109A 109E
  135D 1360 1712 1716 1732 1735 1752 1754 1772 1774 17B4 17D4 17DD 17DE 180B 180E 180F 1810 1885
  1887 18A9 18AA 1920 192C 1930 193C 1A17 1A1C 1A55 1A5F 1A60 1A7D 1A7F 1A80 1AB0 1ACF 1B00 1B05
  1B34 1B45 1B6B 1B74 1B80 1B83 1BA1 1BAE 1BE6 1BF4 1C24 1C38 1CD0 1CD3 1CD4 1CE9 1CED 1CEE 1CF4
  1CF5 1CF7 1CFA 1DC0 1E00 20D0 20F1 2CEF 2CF2 2D7F 2D80 2DE0 2E00 302A 3030 3099 309B A66F A673
  A674 A67E A69E A6A0 A6F0 A6F2 A802 A803 A806 A807 A80B A80C A823 A828 A82C A82D A880 A882 A8B4
  A8C6 A8E0 A8F2 A8FF A900 A926 A92E A947 A954 A980 A984 A9B3 A9C1 A9E5 A9E6 AA29 AA37 AA43 AA44
  AA4C AA4E AA7B AA7E AAB0 AAB1 AAB2 AAB5 AAB7 AAB9 AABE AAC0 AAC1 AAC2 AAEB AAF0 AAF5 AAF7 ABE3
  ABEB ABEC ABEE FB1E FB1F FE00 FE10 FE20 FE30 101FD 101FE 102E0 102E1 10376 1037B 10A01 10A04
  10A05 10A07 10A0C 10A10 10A38 10A3B 10A3F 10A40 10AE5 10AE7 10D24 10D28 10EAB 10EAD 10F46 10F51
  10F82 10F86 11000 11003 11038 11047 11070 11071 11073 11075 1107F 11083 110B0 110BB 110C2 110C3
  11100 11103 11127 11135 11145 11147 11173 11174 11180 11183 111B3 111C1 111C9 111CD 111CE 111D0
  1122C 11238 1123E 1123F 112DF 112EB 11300 11304 1133B 1133D 1133E 11345 11347 11349 1134B 1134E
  11357 11358 11362 11364 11366 1136D 11370 11375 11435 11447 1145E 1145F 114B0 114C4 115AF 115B6
  115B8 115C1 115DC 115DE 11630 11641 116AB 116B8 1171D 1172C 1182C 1183B 11930 11936 11937 11939
  1193B 1193F 11940 11941 11942 11944 119D1 119D8 119DA 119E1 119E4 119E5 11A01 11A0B 11A33 11A3A
  11A3B 11A3F 11A47 11A48 11A51 11A5C 11A8A 11A9A 11C2F 11C37 11C38 11C40 11C92 11CA8 11CA9 11CB7
  11D31 11D37 11D3A 11D3B 11D3C 11D3E 11D3F 11D46 11D47 11D48 11D8A 11D8F 11D90 11D92 11D93 11D98
  11EF3 11EF7 16AF0 16AF5 16B30 16B37 16F4F 16F50 16F51 16F88 16F8F 16F93 16FE4 16FE5 16FF0 16FF2
  1BC9D 1BC9F 1CF00 1CF2E 1CF30 1CF47 1D165 1D16A 1D16D 1D173 1D17B 1D183 1D185 1D18C 1D1AA 1D1AE
  1D242 1D245 1DA00 1DA37 1DA3B 1DA6D 1DA75 1DA76 1DA84 1DA85 1DA9B 1DAA0 1DAA1 1DAB0 1E000 1E007
  1E008 1E019 1E01B 1E022 1E023 1E025 1E026 1E02B 1E130 1E137 1E2AE 1E2AF 1E2EC 1E2F0 1E8D0 1E8D7
  1E944 1E94B E0100 E01F0"

end Checkup.Unicode
