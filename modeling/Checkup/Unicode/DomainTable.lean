/-!
# Characters of domain names

How the characters above ASCII are prepared for a domain name. Rows are separated by white space and
the hexadecimal numbers of a row by commas.
-/

namespace Checkup.Unicode

/-- The boundaries of the characters that stay as they are before composition. -/
def keptPoints : String := "
  A1 A8 A9 AA AB AD AE AF B0 B2 B6 B8 BB BC BF C0 D7 D8 DF 100 101 102 103 104 105 106 107 108 109
  10A 10B 10C 10D 10E 10F 110 111 112 113 114 115 116 117 118 119 11A 11B 11C 11D 11E 11F 120 121
  122 123 124 125 126 127 128 129 12A 12B 12C 12D 12E 12F 130 131 132 135 136 137 139 13A 13B 13C
  13D 13E 13F 142 143 144 145 146 147 148 149 14B 14C 14D 14E 14F 150 151 152 153 154 155 156 157
  158 159 15A 15B 15C 15D 15E 15F 160 161 162 163 164 165 166 167 168 169 16A 16B 16C 16D 16E 16F
  170 171 172 173 174 175 176 177 178 17A 17B 17C 17D 17E 17F 180 181 183 184 185 186 188 189 18C
  18E 192 193 195 196 199 19C 19E 19F 1A1 1A2 1A3 1A4 1A5 1A6 1A8 1A9 1AA 1AC 1AD 1AE 1B0 1B1 1B4
  1B5 1B6 1B7 1B9 1BC 1BD 1C4 1CE 1CF 1D0 1D1 1D2 1D3 1D4 1D5 1D6 1D7 1D8 1D9 1DA 1DB 1DC 1DE 1DF
  1E0 1E1 1E2 1E3 1E4 1E5 1E6 1E7 1E8 1E9 1EA 1EB 1EC 1ED 1EE 1EF 1F1 1F5 1F6 1F9 1FA 1FB 1FC 1FD
  1FE 1FF 200 201 202 203 204 205 206 207 208 209 20A 20B 20C 20D 20E 20F 210 211 212 213 214 215
  216 217 218 219 21A 21B 21C 21D 21E 21F 220 221 222 223 224 225 226 227 228 229 22A 22B 22C 22D
  22E 22F 230 231 232 233 23A 23C 23D 23F 241 242 243 247 248 249 24A 24B 24C 24D 24E 24F 2B0 2B9
  2D8 2DE 2E0 2E5 345 346 34F 350 370 371 372 373 376 377 378 37B 37F 387 388 390 391 3AC 3CF 3D7
  3D8 3D9 3DA 3DB 3DC 3DD 3DE 3DF 3E0 3E1 3E2 3E3 3E4 3E5 3E6 3E7 3E8 3E9 3EA 3EB 3EC 3ED 3EE 3EF
  3F0 3F3 3F4 3F6 3F7 3F8 3F9 3FB 3FD 430 460 461 462 463 464 465 466 467 468 469 46A 46B 46C 46D
  46E 46F 470 471 472 473 474 475 476 477 478 479 47A 47B 47C 47D 47E 47F 480 481 48A 48B 48C 48D
  48E 48F 490 491 492 493 494 495 496 497 498 499 49A 49B 49C 49D 49E 49F 4A0 4A1 4A2 4A3 4A4 4A5
  4A6 4A7 4A8 4A9 4AA 4AB 4AC 4AD 4AE 4AF 4B0 4B1 4B2 4B3 4B4 4B5 4B6 4B7 4B8 4B9 4BA 4BB 4BC 4BD
  4BE 4BF 4C0 4C2 4C3 4C4 4C5 4C6 4C7 4C8 4C9 4CA 4CB 4CC 4CD 4CE 4D0 4D1 4D2 4D3 4D4 4D5 4D6 4D7
  4D8 4D9 4DA 4DB 4DC 4DD 4DE 4DF 4E0 4E1 4E2 4E3 4E4 4E5 4E6 4E7 4E8 4E9 4EA 4EB 4EC 4ED 4EE 4EF
  4F0 4F1 4F2 4F3 4F4 4F5 4F6 4F7 4F8 4F9 4FA 4FB 4FC 4FD 4FE 4FF 500 501 502 503 504 505 506 507
  508 509 50A 50B 50C 50D 50E 50F 510 511 512 513 514 515 516 517 518 519 51A 51B 51C 51D 51E 51F
  520 521 522 523 524 525 526 527 528 529 52A 52B 52C 52D 52E 52F 530 559 587 588 58B 58D 590 591
  5C8 5D0 5EB 5EF 5F5 606 61C 61D 675 679 6DD 6DE 70E 710 74B 74D 7B2 7C0 7FB 7FD 82E 830 83F 840
  85C 85E 85F 860 86B 870 88F 898 8E2 8E3 984 985 98D 98F 991 993 9A9 9AA 9B1 9B2 9B3 9B6 9BA 9BC
  9C5 9C7 9C9 9CB 9CF 9D7 9D8 9DC 9DE 9DF 9E4 9E6 9FF A01 A04 A05 A0B A0F A11 A13 A29 A2A A31 A32
  A34 A35 A37 A38 A3A A3C A3D A3E A43 A47 A49 A4B A4E A51 A52 A59 A5D A5E A5F A66 A77 A81 A84 A85
  A8E A8F A92 A93 AA9 AAA AB1 AB2 AB4 AB5 ABA ABC AC6 AC7 ACA ACB ACE AD0 AD1 AE0 AE4 AE6 AF2 AF9
  B00 B01 B04 B05 B0D B0F B11 B13 B29 B2A B31 B32 B34 B35 B3A B3C B45 B47 B49 B4B B4E B55 B58 B5C
  B5E B5F B64 B66 B78 B82 B84 B85 B8B B8E B91 B92 B96 B99 B9B B9C B9D B9E BA0 BA3 BA5 BA8 BAB BAE
  BBA BBE BC3 BC6 BC9 BCA BCE BD0 BD1 BD7 BD8 BE6 BFB C00 C0D C0E C11 C12 C29 C2A C3A C3C C45 C46
  C49 C4A C4E C55 C57 C58 C5B C5D C5E C60 C64 C66 C70 C77 C8D C8E C91 C92 CA9 CAA CB4 CB5 CBA CBC
  CC5 CC6 CC9 CCA CCE CD5 CD7 CDD CDF CE0 CE4 CE6 CF0 CF1 CF4 D00 D0D D0E D11 D12 D45 D46 D49 D4A
  D50 D54 D64 D66 D80 D81 D84 D85 D97 D9A DB2 DB3 DBC DBD DBE DC0 DC7 DCA DCB DCF DD5 DD6 DD7 DD8
  DE0 DE6 DF0 DF2 DF5 E01 E33 E34 E3B E3F E5C E81 E83 E84 E85 E86 E8B E8C EA4 EA5 EA6 EA7 EB3 EB4
  EBE EC0 EC5 EC6 EC7 EC8 ECF ED0 EDA EDE EE0 F00 F0C F0D F48 F49 F6D F71 F77 F78 F79 F7A F98 F99
  FBD FBE FCD FCE FDB 1000 10A0 10D0 10FC 10FD 115F 1161 1249 124A 124E 1250 1257 1258 1259 125A
  125E 1260 1289 128A 128E 1290 12B1 12B2 12B6 12B8 12BF 12C0 12C1 12C2 12C6 12C8 12D7 12D8 1311
  1312 1316 1318 135B 135D 137D 1380 139A 13A0 13F6 1400 1680 1681 169D 16A0 16F9 1700 1716 171F
  1737 1740 1754 1760 176D 176E 1771 1772 1774 1780 17B4 17B6 17DE 17E0 17EA 17F0 17FA 1800 1806
  1807 180B 1810 181A 1820 1879 1880 18AB 18B0 18F6 1900 191F 1920 192C 1930 193C 1940 1941 1944
  196E 1970 1975 1980 19AC 19B0 19CA 19D0 19DB 19DE 1A1C 1A1E 1A5F 1A60 1A7D 1A7F 1A8A 1A90 1A9A
  1AA0 1AAE 1AB0 1ACF 1B00 1B4D 1B50 1B7F 1B80 1BF4 1BFC 1C38 1C3B 1C4A 1C4D 1C80 1CC0 1CC8 1CD0
  1CFB 1D00 1D2C 1D2F 1D30 1D3B 1D3C 1D4E 1D4F 1D6B 1D78 1D79 1D9B 1DC0 1E00 1E01 1E02 1E03 1E04
  1E05 1E06 1E07 1E08 1E09 1E0A 1E0B 1E0C 1E0D 1E0E 1E0F 1E10 1E11 1E12 1E13 1E14 1E15 1E16 1E17
  1E18 1E19 1E1A 1E1B 1E1C 1E1D 1E1E 1E1F 1E20 1E21 1E22 1E23 1E24 1E25 1E26 1E27 1E28 1E29 1E2A
  1E2B 1E2C 1E2D 1E2E 1E2F 1E30 1E31 1E32 1E33 1E34 1E35 1E36 1E37 1E38 1E39 1E3A 1E3B 1E3C 1E3D
  1E3E 1E3F 1E40 1E41 1E42 1E43 1E44 1E45 1E46 1E47 1E48 1E49 1E4A 1E4B 1E4C 1E4D 1E4E 1E4F 1E50
  1E51 1E52 1E53 1E54 1E55 1E56 1E57 1E58 1E59 1E5A 1E5B 1E5C 1E5D 1E5E 1E5F 1E60 1E61 1E62 1E63
  1E64 1E65 1E66 1E67 1E68 1E69 1E6A 1E6B 1E6C 1E6D 1E6E 1E6F 1E70 1E71 1E72 1E73 1E74 1E75 1E76
  1E77 1E78 1E79 1E7A 1E7B 1E7C 1E7D 1E7E 1E7F 1E80 1E81 1E82 1E83 1E84 1E85 1E86 1E87 1E88 1E89
  1E8A 1E8B 1E8C 1E8D 1E8E 1E8F 1E90 1E91 1E92 1E93 1E94 1E95 1E9A 1E9C 1E9E 1E9F 1EA0 1EA1 1EA2
  1EA3 1EA4 1EA5 1EA6 1EA7 1EA8 1EA9 1EAA 1EAB 1EAC 1EAD 1EAE 1EAF 1EB0 1EB1 1EB2 1EB3 1EB4 1EB5
  1EB6 1EB7 1EB8 1EB9 1EBA 1EBB 1EBC 1EBD 1EBE 1EBF 1EC0 1EC1 1EC2 1EC3 1EC4 1EC5 1EC6 1EC7 1EC8
  1EC9 1ECA 1ECB 1ECC 1ECD 1ECE 1ECF 1ED0 1ED1 1ED2 1ED3 1ED4 1ED5 1ED6 1ED7 1ED8 1ED9 1EDA 1EDB
  1EDC 1EDD 1EDE 1EDF 1EE0 1EE1 1EE2 1EE3 1EE4 1EE5 1EE6 1EE7 1EE8 1EE9 1EEA 1EEB 1EEC 1EED 1EEE
  1EEF 1EF0 1EF1 1EF2 1EF3 1EF4 1EF5 1EF6 1EF7 1EF8 1EF9 1EFA 1EFB 1EFC 1EFD 1EFE 1EFF 1F08 1F10
  1F16 1F20 1F28 1F30 1F38 1F40 1F46 1F50 1F58 1F60 1F68 1F70 1F7E 1FB0 1FB2 1FB6 1FB7 1FBE 1FBF
  1FC6 1FC7 1FD0 1FD4 1FD6 1FD8 1FE0 1FE8 1FEF 1FF0 1FF6 1FF7 200C 200E 2010 2011 2012 2017 2018
  2024 2027 2028 2030 2033 2035 2036 2038 203C 203D 203E 203F 2047 204A 2057 2058 205F 20A0 20A8
  20A9 20C1 20D0 20F1 2104 2105 2108 2109 2114 2115 2117 2119 211E 2120 2123 2124 2125 2126 2127
  2128 2129 212A 212E 212F 213A 213B 2141 2145 214A 2150 2180 2183 2184 2189 218A 218C 2190 222C
  222E 222F 2231 2427 2440 244B 24EB 2A0C 2A0D 2A74 2A77 2B74 2B76 2B96 2B97 2C00 2C30 2C60 2C61
  2C62 2C65 2C67 2C68 2C69 2C6A 2C6B 2C6C 2C6D 2C71 2C72 2C73 2C75 2C76 2C7C 2C81 2C82 2C83 2C84
  2C85 2C86 2C87 2C88 2C89 2C8A 2C8B 2C8C 2C8D 2C8E 2C8F 2C90 2C91 2C92 2C93 2C94 2C95 2C96 2C97
  2C98 2C99 2C9A 2C9B 2C9C 2C9D 2C9E 2C9F 2CA0 2CA1 2CA2 2CA3 2CA4 2CA5 2CA6 2CA7 2CA8 2CA9 2CAA
  2CAB 2CAC 2CAD 2CAE 2CAF 2CB0 2CB1 2CB2 2CB3 2CB4 2CB5 2CB6 2CB7 2CB8 2CB9 2CBA 2CBB 2CBC 2CBD
  2CBE 2CBF 2CC0 2CC1 2CC2 2CC3 2CC4 2CC5 2CC6 2CC7 2CC8 2CC9 2CCA 2CCB 2CCC 2CCD 2CCE 2CCF 2CD0
  2CD1 2CD2 2CD3 2CD4 2CD5 2CD6 2CD7 2CD8 2CD9 2CDA 2CDB 2CDC 2CDD 2CDE 2CDF 2CE0 2CE1 2CE2 2CE3
  2CEB 2CEC 2CED 2CEE 2CF2 2CF3 2CF4 2CF9 2D26 2D27 2D28 2D2D 2D2E 2D30 2D68 2D70 2D71 2D7F 2D97
  2DA0 2DA7 2DA8 2DAF 2DB0 2DB7 2DB8 2DBF 2DC0 2DC7 2DC8 2DCF 2DD0 2DD7 2DD8 2DDF 2DE0 2E5E 2E80
  2E9A 2E9B 2E9F 2EA0 2EF3 3001 3002 3003 3036 3037 3038 303B 3040 3041 3097 3099 309B 309D 309F
  30A0 30FF 3105 3130 3190 3192 31A0 31E4 31F0 3200 3248 3250 327F 3280 3400 A48D A490 A4C7 A4D0
  A62C A641 A642 A643 A644 A645 A646 A647 A648 A649 A64A A64B A64C A64D A64E A64F A650 A651 A652
  A653 A654 A655 A656 A657 A658 A659 A65A A65B A65C A65D A65E A65F A660 A661 A662 A663 A664 A665
  A666 A667 A668 A669 A66A A66B A66C A66D A680 A681 A682 A683 A684 A685 A686 A687 A688 A689 A68A
  A68B A68C A68D A68E A68F A690 A691 A692 A693 A694 A695 A696 A697 A698 A699 A69A A69B A69C A69E
  A6F8 A700 A722 A723 A724 A725 A726 A727 A728 A729 A72A A72B A72C A72D A72E A72F A732 A733 A734
  A735 A736 A737 A738 A739 A73A A73B A73C A73D A73E A73F A740 A741 A742 A743 A744 A745 A746 A747
  A748 A749 A74A A74B A74C A74D A74E A74F A750 A751 A752 A753 A754 A755 A756 A757 A758 A759 A75A
  A75B A75C A75D A75E A75F A760 A761 A762 A763 A764 A765 A766 A767 A768 A769 A76A A76B A76C A76D
  A76E A76F A770 A771 A779 A77A A77B A77C A77D A77F A780 A781 A782 A783 A784 A785 A786 A787 A78B
  A78C A78D A78E A790 A791 A792 A793 A796 A797 A798 A799 A79A A79B A79C A79D A79E A79F A7A0 A7A1
  A7A2 A7A3 A7A4 A7A5 A7A6 A7A7 A7A8 A7A9 A7AA A7AF A7B0 A7B5 A7B6 A7B7 A7B8 A7B9 A7BA A7BB A7BC
  A7BD A7BE A7BF A7C0 A7C1 A7C2 A7C3 A7C4 A7C8 A7C9 A7CA A7CB A7D1 A7D2 A7D3 A7D4 A7D5 A7D6 A7D7
  A7D8 A7D9 A7DA A7F6 A7F8 A7FA A82D A830 A83A A840 A878 A880 A8C6 A8CE A8DA A8E0 A954 A95F A97D
  A980 A9CE A9CF A9DA A9DE A9FF AA00 AA37 AA40 AA4E AA50 AA5A AA5C AAC3 AADB AAF7 AB01 AB07 AB09
  AB0F AB11 AB17 AB20 AB27 AB28 AB2F AB30 AB5C AB60 AB69 AB6A AB6C ABC0 ABEE ABF0 ABFA AC00 D7A4
  D7B0 D7C7 D7CB D7FC F900 FA6E FA70 FADA FB1D FB20 FB2A FB37 FB38 FB3D FB3E FB3F FB40 FB42 FB43
  FB45 FB46 FB4F FBB2 FBC3 FD3E FD50 FDCF FDD0 FDFD FE00 FE20 FE30 FE45 FE47 FE73 FE74 10000 1000C
  1000D 10027 10028 1003B 1003C 1003E 1003F 1004E 10050 1005E 10080 100FB 10100 10103 10107 10134
  10137 1018F 10190 1019D 101A0 101A1 101D0 101FE 10280 1029D 102A0 102D1 102E0 102FC 10300 10324
  1032D 1034B 10350 1037B 10380 1039E 1039F 103C4 103C8 103D6 10428 1049E 104A0 104AA 104D8 104FC
  10500 10528 10530 10564 1056F 10570 10597 105A2 105A3 105B2 105B3 105BA 105BB 105BD 10600 10737
  10740 10756 10760 10768 10780 10781 10800 10806 10808 10809 1080A 10836 10837 10839 1083C 1083D
  1083F 10856 10857 1089F 108A7 108B0 108E0 108F3 108F4 108F6 108FB 1091C 1091F 1093A 1093F 10940
  10980 109B8 109BC 109D0 109D2 10A04 10A05 10A07 10A0C 10A14 10A15 10A18 10A19 10A36 10A38 10A3B
  10A3F 10A49 10A50 10A59 10A60 10AA0 10AC0 10AE7 10AEB 10AF7 10B00 10B36 10B39 10B56 10B58 10B73
  10B78 10B92 10B99 10B9D 10BA9 10BB0 10C00 10C49 10CC0 10CF3 10CFA 10D28 10D30 10D3A 10E60 10E7F
  10E80 10EAA 10EAB 10EAE 10EB0 10EB2 10EFD 10F28 10F30 10F5A 10F70 10F8A 10FB0 10FCC 10FE0 10FF7
  11000 1104E 11052 11076 1107F 110BD 110BE 110C3 110D0 110E9 110F0 110FA 11100 11135 11136 11148
  11150 11177 11180 111E0 111E1 111F5 11200 11212 11213 11242 11280 11287 11288 11289 1128A 1128E
  1128F 1129E 1129F 112AA 112B0 112EB 112F0 112FA 11300 11304 11305 1130D 1130F 11311 11313 11329
  1132A 11331 11332 11334 11335 1133A 1133B 11345 11347 11349 1134B 1134E 11350 11351 11357 11358
  1135D 11364 11366 1136D 11370 11375 11400 1145C 1145D 11462 11480 114C8 114D0 114DA 11580 115B6
  115B8 115DE 11600 11645 11650 1165A 11660 1166D 11680 116BA 116C0 116CA 11700 1171B 1171D 1172C
  11730 11747 11800 1183C 118C0 118F3 118FF 11907 11909 1190A 1190C 11914 11915 11917 11918 11936
  11937 11939 1193B 11947 11950 1195A 119A0 119A8 119AA 119D8 119DA 119E5 11A00 11A48 11A50 11AA3
  11AB0 11AF9 11B00 11B0A 11C00 11C09 11C0A 11C37 11C38 11C46 11C50 11C6D 11C70 11C90 11C92 11CA8
  11CA9 11CB7 11D00 11D07 11D08 11D0A 11D0B 11D37 11D3A 11D3B 11D3C 11D3E 11D3F 11D48 11D50 11D5A
  11D60 11D66 11D67 11D69 11D6A 11D8F 11D90 11D92 11D93 11D99 11DA0 11DAA 11EE0 11EF9 11F00 11F11
  11F12 11F3B 11F3E 11F5A 11FB0 11FB1 11FC0 11FF2 11FFF 1239A 12400 1246F 12470 12475 12480 12544
  12F90 12FF3 13000 13430 13440 13456 14400 14647 16800 16A39 16A40 16A5F 16A60 16A6A 16A6E 16ABF
  16AC0 16ACA 16AD0 16AEE 16AF0 16AF6 16B00 16B46 16B50 16B5A 16B5B 16B62 16B63 16B78 16B7D 16B90
  16E60 16E9B 16F00 16F4B 16F4F 16F88 16F8F 16FA0 16FE0 16FE5 16FF0 16FF2 17000 187F8 18800 18CD6
  18D00 18D09 1AFF0 1AFF4 1AFF5 1AFFC 1AFFD 1AFFF 1B000 1B123 1B132 1B133 1B150 1B153 1B155 1B156
  1B164 1B168 1B170 1B2FC 1BC00 1BC6B 1BC70 1BC7D 1BC80 1BC89 1BC90 1BC9A 1BC9C 1BCA0 1CF00 1CF2E
  1CF30 1CF47 1CF50 1CFC4 1D000 1D0F6 1D100 1D127 1D129 1D173 1D17B 1D1EB 1D200 1D246 1D2C0 1D2D4
  1D2E0 1D2F4 1D300 1D357 1D360 1D379 1D800 1DA8C 1DA9B 1DAA0 1DAA1 1DAB0 1DF00 1DF1F 1DF25 1DF2B
  1E000 1E007 1E008 1E019 1E01B 1E022 1E023 1E025 1E026 1E02B 1E08F 1E090 1E100 1E12D 1E130 1E13E
  1E140 1E14A 1E14E 1E150 1E290 1E2AF 1E2C0 1E2FA 1E2FF 1E300 1E4D0 1E4FA 1E7E0 1E7E7 1E7E8 1E7EC
  1E7ED 1E7EF 1E7F0 1E7FF 1E800 1E8C5 1E8C7 1E8D7 1E922 1E94C 1E950 1E95A 1E95E 1E960 1EC71 1ECB5
  1ED01 1ED3E 1EEF0 1EEF2 1F000 1F02C 1F030 1F094 1F0A0 1F0AF 1F0B1 1F0C0 1F0C1 1F0D0 1F0D1 1F0F6
  1F10B 1F110 1F12F 1F130 1F150 1F16A 1F16D 1F190 1F191 1F1AE 1F1E6 1F200 1F260 1F266 1F300 1F6D8
  1F6DC 1F6ED 1F6F0 1F6FD 1F700 1F777 1F77B 1F7DA 1F7E0 1F7EC 1F7F0 1F7F1 1F800 1F80C 1F810 1F848
  1F850 1F85A 1F860 1F888 1F890 1F8AE 1F8B0 1F8B2 1F900 1FA54 1FA60 1FA6E 1FA70 1FA7D 1FA80 1FA89
  1FA90 1FABE 1FABF 1FAC6 1FACE 1FADC 1FAE0 1FAE9 1FAF0 1FAF9 1FB00 1FB93 1FB94 1FBCB 20000 2A6E0
  2A700 2B73A 2B740 2B81E 2B820 2CEA2 2CEB0 2EBE1 2EBF0 2EE5E 2F800 2F874 2F875 2FA1E 30000 3134B
  31350 323B0"

/-- The boundaries of the characters that are left out. -/
def droppedPoints : String := "
  AD AE 34F 350 180B 180E 180F 1810 200B 200C 2060 2061 2064 2065 FE00 FE10 FEFF FF00 1BCA0 1BCA4
  E0100 E01F0"

/-- Runs `first, last, step, gain, target`: the `n`-th character of a run, counted from 0, is
replaced by `target + n * gain`; the characters of a run lie `step` apart. -/
def replacedRuns : String := "
  A0,A0,1,1,20 AA,AA,1,1,61 B2,B3,1,1,32 B5,B5,1,1,3BC B9,B9,1,1,31 BA,BA,1,1,6F C0,D6,1,1,E0
  D8,DE,1,1,F8 100,12E,2,2,101 134,136,2,2,135 139,13D,2,2,13A 141,147,2,2,142 14A,176,2,2,14B
  178,178,1,1,FF 179,17D,2,2,17A 17F,17F,1,1,73 181,181,1,1,253 182,184,2,2,183 186,186,1,1,254
  187,187,1,1,188 189,18A,1,1,256 18B,18B,1,1,18C 18E,18E,1,1,1DD 18F,190,1,2,259 191,191,1,1,192
  193,193,1,1,260 194,194,1,1,263 196,196,1,1,269 197,197,1,1,268 198,198,1,1,199 19C,19C,1,1,26F
  19D,19D,1,1,272 19F,19F,1,1,275 1A0,1A4,2,2,1A1 1A6,1A6,1,1,280 1A7,1A7,1,1,1A8 1A9,1A9,1,1,283
  1AC,1AC,1,1,1AD 1AE,1AE,1,1,288 1AF,1AF,1,1,1B0 1B1,1B2,1,1,28A 1B3,1B5,2,2,1B4 1B7,1B7,1,1,292
  1B8,1B8,1,1,1B9 1BC,1BC,1,1,1BD 1CD,1DB,2,2,1CE 1DE,1EE,2,2,1DF 1F4,1F4,1,1,1F5 1F6,1F6,1,1,195
  1F7,1F7,1,1,1BF 1F8,21E,2,2,1F9 220,220,1,1,19E 222,232,2,2,223 23A,23A,1,1,2C65 23B,23B,1,1,23C
  23D,23D,1,1,19A 23E,23E,1,1,2C66 241,241,1,1,242 243,243,1,1,180 244,244,1,1,289 245,245,1,1,28C
  246,24E,2,2,247 2B0,2B0,1,1,68 2B1,2B1,1,1,266 2B2,2B2,1,1,6A 2B3,2B3,1,1,72 2B4,2B5,1,2,279
  2B6,2B6,1,1,281 2B7,2B8,1,2,77 2E0,2E0,1,1,263 2E1,2E1,1,1,6C 2E2,2E2,1,1,73 2E3,2E3,1,1,78
  2E4,2E4,1,1,295 345,345,1,1,3B9 370,372,2,2,371 376,376,1,1,377 37F,37F,1,1,3F3 386,388,2,1,3AC
  389,38A,1,1,3AE 38C,38E,2,1,3CC 38F,38F,1,1,3CE 391,3A1,1,1,3B1 3A3,3AB,1,1,3C3 3CF,3CF,1,1,3D7
  3D0,3D0,1,1,3B2 3D1,3D1,1,1,3B8 3D2,3D2,1,1,3C5 3D3,3D3,1,1,3CD 3D4,3D4,1,1,3CB 3D5,3D5,1,1,3C6
  3D6,3D6,1,1,3C0 3D8,3EE,2,2,3D9 3F0,3F0,1,1,3BA 3F1,3F2,1,2,3C1 3F4,3F4,1,1,3B8 3F5,3F5,1,1,3B5
  3F7,3F7,1,1,3F8 3F9,3F9,1,1,3C3 3FA,3FA,1,1,3FB 3FD,3FF,1,1,37B 400,40F,1,1,450 410,42F,1,1,430
  460,480,2,2,461 48A,4BE,2,2,48B 4C1,4CD,2,2,4C2 4D0,52E,2,2,4D1 531,556,1,1,561 F0C,F0C,1,1,F0B
  10C7,10C7,1,1,2D27 10CD,10CD,1,1,2D2D 10FC,10FC,1,1,10DC 13F8,13FD,1,1,13F0 1C80,1C81,1,2,432
  1C82,1C82,1,1,43E 1C83,1C84,1,1,441 1C85,1C85,1,1,442 1C86,1C86,1,1,44A 1C87,1C87,1,1,463
  1C88,1C88,1,1,A64B 1C90,1CBA,1,1,10D0 1CBD,1CBF,1,1,10FD 1D2C,1D2C,1,1,61 1D2D,1D2D,1,1,E6
  1D2E,1D30,2,2,62 1D31,1D31,1,1,65 1D32,1D32,1,1,1DD 1D33,1D3A,1,1,67 1D3C,1D3C,1,1,6F
  1D3D,1D3D,1,1,223 1D3E,1D40,1,2,70 1D41,1D42,1,2,75 1D43,1D43,1,1,61 1D44,1D45,1,1,250
  1D46,1D46,1,1,1D02 1D47,1D48,1,2,62 1D49,1D49,1,1,65 1D4A,1D4B,1,2,259 1D4C,1D4C,1,1,25C
  1D4D,1D4D,1,1,67 1D4F,1D50,1,2,6B 1D51,1D51,1,1,14B 1D52,1D52,1,1,6F 1D53,1D53,1,1,254
  1D54,1D55,1,1,1D16 1D56,1D56,1,1,70 1D57,1D58,1,1,74 1D59,1D59,1,1,1D1D 1D5A,1D5A,1,1,26F
  1D5B,1D5B,1,1,76 1D5C,1D5C,1,1,1D25 1D5D,1D5F,1,1,3B2 1D60,1D61,1,1,3C6 1D62,1D62,1,1,69
  1D63,1D63,1,1,72 1D64,1D65,1,1,75 1D66,1D67,1,1,3B2 1D68,1D68,1,1,3C1 1D69,1D6A,1,1,3C6
  1D78,1D78,1,1,43D 1D9B,1D9B,1,1,252 1D9C,1D9C,1,1,63 1D9D,1D9D,1,1,255 1D9E,1D9E,1,1,F0
  1D9F,1D9F,1,1,25C 1DA0,1DA0,1,1,66 1DA1,1DA2,1,2,25F 1DA3,1DA3,1,1,265 1DA4,1DA6,1,1,268
  1DA7,1DA7,1,1,1D7B 1DA8,1DA8,1,1,29D 1DA9,1DA9,1,1,26D 1DAA,1DAA,1,1,1D85 1DAB,1DAB,1,1,29F
  1DAC,1DAC,1,1,271 1DAD,1DAE,1,2,270 1DAF,1DB1,1,1,273 1DB2,1DB2,1,1,278 1DB3,1DB4,1,1,282
  1DB5,1DB5,1,1,1AB 1DB6,1DB7,1,1,289 1DB8,1DB8,1,1,1D1C 1DB9,1DBA,1,1,28B 1DBB,1DBB,1,1,7A
  1DBC,1DBE,1,1,290 1DBF,1DBF,1,1,3B8 1E00,1E94,2,2,1E01 1E9B,1E9B,1,1,1E61 1E9E,1E9E,1,1,DF
  1EA0,1EFE,2,2,1EA1 1F08,1F0F,1,1,1F00 1F18,1F1D,1,1,1F10 1F28,1F2F,1,1,1F20 1F38,1F3F,1,1,1F30
  1F48,1F4D,1,1,1F40 1F59,1F5F,2,2,1F51 1F68,1F6F,1,1,1F60 1FB8,1FB9,1,1,1FB0 1FBA,1FBA,1,1,1F70
  1FBB,1FBB,1,1,3AC 1FC8,1FC8,1,1,1F72 1FC9,1FC9,1,1,3AD 1FCA,1FCA,1,1,1F74 1FCB,1FCB,1,1,3AE
  1FD8,1FD9,1,1,1FD0 1FDA,1FDA,1,1,1F76 1FDB,1FDB,1,1,3AF 1FE8,1FE9,1,1,1FE0 1FEA,1FEA,1,1,1F7A
  1FEB,1FEB,1,1,3CD 1FEC,1FEC,1,1,1FE5 1FF8,1FF8,1,1,1F78 1FF9,1FF9,1,1,3CC 1FFA,1FFA,1,1,1F7C
  1FFB,1FFB,1,1,3CE 2000,200A,1,0,20 2011,2011,1,1,2010 202F,202F,1,1,20 205F,205F,1,1,20
  2070,2070,1,1,30 2071,2071,1,1,69 2074,2079,1,1,34 207A,207A,1,1,2B 207B,207B,1,1,2212
  207C,207C,1,1,3D 207D,207E,1,1,28 207F,207F,1,1,6E 2080,2089,1,1,30 208A,208A,1,1,2B
  208B,208B,1,1,2212 208C,208C,1,1,3D 208D,208E,1,1,28 2090,2090,1,1,61 2091,2091,1,1,65
  2092,2092,1,1,6F 2093,2093,1,1,78 2094,2094,1,1,259 2095,2095,1,1,68 2096,2099,1,1,6B
  209A,209A,1,1,70 209B,209C,1,1,73 2102,2102,1,1,63 2107,2107,1,1,25B 210A,210B,1,1,67
  210C,210E,1,0,68 210F,210F,1,1,127 2110,2111,1,0,69 2112,2113,1,0,6C 2115,2115,1,1,6E
  2119,211B,1,1,70 211C,211D,1,0,72 2124,2124,1,1,7A 2126,2126,1,1,3C9 2128,2128,1,1,7A
  212A,212A,1,1,6B 212B,212B,1,1,E5 212C,212D,1,1,62 212F,2130,1,0,65 2131,2131,1,1,66
  2133,2134,1,2,6D 2135,2138,1,1,5D0 2139,2139,1,1,69 213C,213C,1,1,3C0 213D,213E,1,0,3B3
  213F,213F,1,1,3C0 2140,2140,1,1,2211 2145,2146,1,0,64 2147,2147,1,1,65 2148,2149,1,1,69
  2160,2160,1,1,69 2164,2164,1,1,76 2169,2169,1,1,78 216C,216C,1,1,6C 216D,216E,1,1,63
  216F,216F,1,1,6D 2170,2170,1,1,69 2174,2174,1,1,76 2179,2179,1,1,78 217C,217C,1,1,6C
  217D,217E,1,1,63 217F,217F,1,1,6D 2460,2468,1,1,31 24B6,24CF,1,1,61 24D0,24E9,1,1,61
  24EA,24EA,1,1,30 2C00,2C2F,1,1,2C30 2C60,2C60,1,1,2C61 2C62,2C62,1,1,26B 2C63,2C63,1,1,1D7D
  2C64,2C64,1,1,27D 2C67,2C6B,2,2,2C68 2C6D,2C6D,1,1,251 2C6E,2C6E,1,1,271 2C6F,2C70,1,2,250
  2C72,2C72,1,1,2C73 2C75,2C75,1,1,2C76 2C7C,2C7C,1,1,6A 2C7D,2C7D,1,1,76 2C7E,2C7F,1,1,23F
  2C80,2CE2,2,2,2C81 2CEB,2CED,2,2,2CEC 2CF2,2CF2,1,1,2CF3 2D6F,2D6F,1,1,2D61 2E9F,2E9F,1,1,6BCD
  2EF3,2EF3,1,1,9F9F 2F00,2F00,1,1,4E00 2F01,2F01,1,1,4E28 2F02,2F02,1,1,4E36 2F03,2F03,1,1,4E3F
  2F04,2F04,1,1,4E59 2F05,2F05,1,1,4E85 2F06,2F06,1,1,4E8C 2F07,2F07,1,1,4EA0 2F08,2F08,1,1,4EBA
  2F09,2F09,1,1,513F 2F0A,2F0A,1,1,5165 2F0B,2F0B,1,1,516B 2F0C,2F0C,1,1,5182 2F0D,2F0D,1,1,5196
  2F0E,2F0E,1,1,51AB 2F0F,2F0F,1,1,51E0 2F10,2F10,1,1,51F5 2F11,2F11,1,1,5200 2F12,2F12,1,1,529B
  2F13,2F13,1,1,52F9 2F14,2F14,1,1,5315 2F15,2F15,1,1,531A 2F16,2F16,1,1,5338 2F17,2F17,1,1,5341
  2F18,2F18,1,1,535C 2F19,2F19,1,1,5369 2F1A,2F1A,1,1,5382 2F1B,2F1B,1,1,53B6 2F1C,2F1C,1,1,53C8
  2F1D,2F1D,1,1,53E3 2F1E,2F1E,1,1,56D7 2F1F,2F1F,1,1,571F 2F20,2F20,1,1,58EB 2F21,2F21,1,1,5902
  2F22,2F22,1,1,590A 2F23,2F23,1,1,5915 2F24,2F24,1,1,5927 2F25,2F25,1,1,5973 2F26,2F26,1,1,5B50
  2F27,2F27,1,1,5B80 2F28,2F28,1,1,5BF8 2F29,2F29,1,1,5C0F 2F2A,2F2A,1,1,5C22 2F2B,2F2B,1,1,5C38
  2F2C,2F2C,1,1,5C6E 2F2D,2F2D,1,1,5C71 2F2E,2F2E,1,1,5DDB 2F2F,2F2F,1,1,5DE5 2F30,2F30,1,1,5DF1
  2F31,2F31,1,1,5DFE 2F32,2F32,1,1,5E72 2F33,2F33,1,1,5E7A 2F34,2F34,1,1,5E7F 2F35,2F35,1,1,5EF4
  2F36,2F36,1,1,5EFE 2F37,2F37,1,1,5F0B 2F38,2F38,1,1,5F13 2F39,2F39,1,1,5F50 2F3A,2F3A,1,1,5F61
  2F3B,2F3B,1,1,5F73 2F3C,2F3C,1,1,5FC3 2F3D,2F3D,1,1,6208 2F3E,2F3E,1,1,6236 2F3F,2F3F,1,1,624B
  2F40,2F40,1,1,652F 2F41,2F41,1,1,6534 2F42,2F42,1,1,6587 2F43,2F43,1,1,6597 2F44,2F44,1,1,65A4
  2F45,2F45,1,1,65B9 2F46,2F46,1,1,65E0 2F47,2F47,1,1,65E5 2F48,2F48,1,1,66F0 2F49,2F49,1,1,6708
  2F4A,2F4A,1,1,6728 2F4B,2F4B,1,1,6B20 2F4C,2F4C,1,1,6B62 2F4D,2F4D,1,1,6B79 2F4E,2F4E,1,1,6BB3
  2F4F,2F4F,1,1,6BCB 2F50,2F50,1,1,6BD4 2F51,2F51,1,1,6BDB 2F52,2F52,1,1,6C0F 2F53,2F53,1,1,6C14
  2F54,2F54,1,1,6C34 2F55,2F55,1,1,706B 2F56,2F56,1,1,722A 2F57,2F57,1,1,7236 2F58,2F58,1,1,723B
  2F59,2F59,1,1,723F 2F5A,2F5A,1,1,7247 2F5B,2F5C,1,2,7259 2F5D,2F5D,1,1,72AC 2F5E,2F5E,1,1,7384
  2F5F,2F5F,1,1,7389 2F60,2F60,1,1,74DC 2F61,2F61,1,1,74E6 2F62,2F62,1,1,7518 2F63,2F63,1,1,751F
  2F64,2F64,1,1,7528 2F65,2F65,1,1,7530 2F66,2F66,1,1,758B 2F67,2F67,1,1,7592 2F68,2F68,1,1,7676
  2F69,2F69,1,1,767D 2F6A,2F6A,1,1,76AE 2F6B,2F6B,1,1,76BF 2F6C,2F6C,1,1,76EE 2F6D,2F6D,1,1,77DB
  2F6E,2F6E,1,1,77E2 2F6F,2F6F,1,1,77F3 2F70,2F70,1,1,793A 2F71,2F71,1,1,79B8 2F72,2F72,1,1,79BE
  2F73,2F73,1,1,7A74 2F74,2F74,1,1,7ACB 2F75,2F75,1,1,7AF9 2F76,2F76,1,1,7C73 2F77,2F77,1,1,7CF8
  2F78,2F78,1,1,7F36 2F79,2F79,1,1,7F51 2F7A,2F7A,1,1,7F8A 2F7B,2F7B,1,1,7FBD 2F7C,2F7C,1,1,8001
  2F7D,2F7D,1,1,800C 2F7E,2F7E,1,1,8012 2F7F,2F7F,1,1,8033 2F80,2F80,1,1,807F 2F81,2F81,1,1,8089
  2F82,2F82,1,1,81E3 2F83,2F83,1,1,81EA 2F84,2F84,1,1,81F3 2F85,2F85,1,1,81FC 2F86,2F86,1,1,820C
  2F87,2F87,1,1,821B 2F88,2F88,1,1,821F 2F89,2F89,1,1,826E 2F8A,2F8A,1,1,8272 2F8B,2F8B,1,1,8278
  2F8C,2F8C,1,1,864D 2F8D,2F8D,1,1,866B 2F8E,2F8E,1,1,8840 2F8F,2F8F,1,1,884C 2F90,2F90,1,1,8863
  2F91,2F91,1,1,897E 2F92,2F92,1,1,898B 2F93,2F93,1,1,89D2 2F94,2F94,1,1,8A00 2F95,2F95,1,1,8C37
  2F96,2F96,1,1,8C46 2F97,2F97,1,1,8C55 2F98,2F98,1,1,8C78 2F99,2F99,1,1,8C9D 2F9A,2F9A,1,1,8D64
  2F9B,2F9B,1,1,8D70 2F9C,2F9C,1,1,8DB3 2F9D,2F9D,1,1,8EAB 2F9E,2F9E,1,1,8ECA 2F9F,2F9F,1,1,8F9B
  2FA0,2FA0,1,1,8FB0 2FA1,2FA1,1,1,8FB5 2FA2,2FA2,1,1,9091 2FA3,2FA3,1,1,9149 2FA4,2FA4,1,1,91C6
  2FA5,2FA5,1,1,91CC 2FA6,2FA6,1,1,91D1 2FA7,2FA7,1,1,9577 2FA8,2FA8,1,1,9580 2FA9,2FA9,1,1,961C
  2FAA,2FAA,1,1,96B6 2FAB,2FAB,1,1,96B9 2FAC,2FAC,1,1,96E8 2FAD,2FAD,1,1,9751 2FAE,2FAE,1,1,975E
  2FAF,2FAF,1,1,9762 2FB0,2FB0,1,1,9769 2FB1,2FB1,1,1,97CB 2FB2,2FB2,1,1,97ED 2FB3,2FB3,1,1,97F3
  2FB4,2FB4,1,1,9801 2FB5,2FB5,1,1,98A8 2FB6,2FB6,1,1,98DB 2FB7,2FB7,1,1,98DF 2FB8,2FB8,1,1,9996
  2FB9,2FB9,1,1,9999 2FBA,2FBA,1,1,99AC 2FBB,2FBB,1,1,9AA8 2FBC,2FBC,1,1,9AD8 2FBD,2FBD,1,1,9ADF
  2FBE,2FBE,1,1,9B25 2FBF,2FBF,1,1,9B2F 2FC0,2FC0,1,1,9B32 2FC1,2FC1,1,1,9B3C 2FC2,2FC2,1,1,9B5A
  2FC3,2FC3,1,1,9CE5 2FC4,2FC4,1,1,9E75 2FC5,2FC5,1,1,9E7F 2FC6,2FC6,1,1,9EA5 2FC7,2FC7,1,1,9EBB
  2FC8,2FC8,1,1,9EC3 2FC9,2FC9,1,1,9ECD 2FCA,2FCA,1,1,9ED1 2FCB,2FCB,1,1,9EF9 2FCC,2FCC,1,1,9EFD
  2FCD,2FCD,1,1,9F0E 2FCE,2FCE,1,1,9F13 2FCF,2FCF,1,1,9F20 2FD0,2FD0,1,1,9F3B 2FD1,2FD1,1,1,9F4A
  2FD2,2FD2,1,1,9F52 2FD3,2FD3,1,1,9F8D 2FD4,2FD4,1,1,9F9C 2FD5,2FD5,1,1,9FA0 3000,3000,1,1,20
  3002,3002,1,1,2E 3036,3036,1,1,3012 3038,3038,1,1,5341 3039,303A,1,1,5344 3131,3132,1,1,1100
  3133,3133,1,1,11AA 3134,3134,1,1,1102 3135,3136,1,1,11AC 3137,3139,1,1,1103 313A,313F,1,1,11B0
  3140,3140,1,1,111A 3141,3143,1,1,1106 3144,3144,1,1,1121 3145,314E,1,1,1109 314F,3163,1,1,1161
  3165,3166,1,1,1114 3167,3168,1,1,11C7 3169,316A,1,2,11CC 316B,316B,1,1,11D3 316C,316D,1,2,11D7
  316E,316E,1,1,111C 316F,3170,1,2,11DD 3171,3172,1,1,111D 3173,3174,1,2,1120 3175,3175,1,1,1123
  3176,3178,1,2,1127 3179,317C,1,1,112C 317D,317D,1,1,1132 317E,317E,1,1,1136 317F,317F,1,1,1140
  3180,3180,1,1,1147 3181,3181,1,1,114C 3182,3183,1,1,11F1 3184,3186,1,1,1157 3187,3188,1,1,1184
  3189,3189,1,1,1188 318A,318B,1,1,1191 318C,318C,1,1,1194 318D,318D,1,1,119E 318E,318E,1,1,11A1
  3192,3192,1,1,4E00 3193,3193,1,1,4E8C 3194,3194,1,1,4E09 3195,3195,1,1,56DB 3196,3196,1,1,4E0A
  3197,3197,1,1,4E2D 3198,3198,1,1,4E0B 3199,3199,1,1,7532 319A,319A,1,1,4E59 319B,319B,1,1,4E19
  319C,319C,1,1,4E01 319D,319D,1,1,5929 319E,319E,1,1,5730 319F,319F,1,1,4EBA 3244,3244,1,1,554F
  3245,3245,1,1,5E7C 3246,3246,1,1,6587 3247,3247,1,1,7B8F 3260,3261,1,2,1100 3262,3263,1,2,1103
  3264,3265,1,1,1106 3266,3267,1,2,1109 3268,3269,1,2,110C 326A,326D,1,1,110F 326E,326E,1,1,AC00
  326F,326F,1,1,B098 3270,3270,1,1,B2E4 3271,3271,1,1,B77C 3272,3272,1,1,B9C8 3273,3273,1,1,BC14
  3274,3274,1,1,C0AC 3275,3275,1,1,C544 3276,3276,1,1,C790 3277,3277,1,1,CC28 3278,3278,1,1,CE74
  3279,3279,1,1,D0C0 327A,327A,1,1,D30C 327B,327B,1,1,D558 327E,327E,1,1,C6B0 3280,3280,1,1,4E00
  3281,3281,1,1,4E8C 3282,3282,1,1,4E09 3283,3283,1,1,56DB 3284,3284,1,1,4E94 3285,3285,1,1,516D
  3286,3286,1,1,4E03 3287,3287,1,1,516B 3288,3288,1,1,4E5D 3289,3289,1,1,5341 328A,328A,1,1,6708
  328B,328B,1,1,706B 328C,328C,1,1,6C34 328D,328D,1,1,6728 328E,328E,1,1,91D1 328F,328F,1,1,571F
  3290,3290,1,1,65E5 3291,3291,1,1,682A 3292,3292,1,1,6709 3293,3293,1,1,793E 3294,3294,1,1,540D
  3295,3295,1,1,7279 3296,3296,1,1,8CA1 3297,3297,1,1,795D 3298,3298,1,1,52B4 3299,3299,1,1,79D8
  329A,329A,1,1,7537 329B,329B,1,1,5973 329C,329C,1,1,9069 329D,329D,1,1,512A 329E,329E,1,1,5370
  329F,329F,1,1,6CE8 32A0,32A0,1,1,9805 32A1,32A1,1,1,4F11 32A2,32A2,1,1,5199 32A3,32A3,1,1,6B63
  32A4,32A4,1,1,4E0A 32A5,32A5,1,1,4E2D 32A6,32A6,1,1,4E0B 32A7,32A7,1,1,5DE6 32A8,32A8,1,1,53F3
  32A9,32A9,1,1,533B 32AA,32AA,1,1,5B97 32AB,32AB,1,1,5B66 32AC,32AC,1,1,76E3 32AD,32AD,1,1,4F01
  32AE,32AE,1,1,8CC7 32AF,32AF,1,1,5354 32B0,32B0,1,1,591C 32D0,32D4,1,2,30A2 32D5,32E0,1,2,30AB
  32E1,32E4,1,2,30C4 32E5,32E9,1,1,30CB 32EA,32EA,1,1,30D2 32EB,32EB,1,1,30D5 32EC,32EC,1,1,30D8
  32ED,32ED,1,1,30DB 32EE,32F2,1,1,30DE 32F3,32F5,1,2,30E4 32F6,32FA,1,1,30E9 32FB,32FE,1,1,30EF
  A640,A66C,2,2,A641 A680,A69A,2,2,A681 A69C,A69D,1,2,44A A722,A72E,2,2,A723 A732,A76E,2,2,A733
  A770,A770,1,1,A76F A779,A77B,2,2,A77A A77D,A77D,1,1,1D79 A77E,A786,2,2,A77F A78B,A78B,1,1,A78C
  A78D,A78D,1,1,265 A790,A792,2,2,A791 A796,A7A8,2,2,A797 A7AA,A7AA,1,1,266 A7AB,A7AB,1,1,25C
  A7AC,A7AC,1,1,261 A7AD,A7AD,1,1,26C A7AE,A7AE,1,1,26A A7B0,A7B0,1,1,29E A7B1,A7B1,1,1,287
  A7B2,A7B2,1,1,29D A7B3,A7B3,1,1,AB53 A7B4,A7C2,2,2,A7B5 A7C4,A7C4,1,1,A794 A7C5,A7C5,1,1,282
  A7C6,A7C6,1,1,1D8E A7C7,A7C9,2,2,A7C8 A7D0,A7D0,1,1,A7D1 A7D6,A7D8,2,2,A7D7 A7F2,A7F2,1,1,63
  A7F3,A7F3,1,1,66 A7F4,A7F4,1,1,71 A7F5,A7F5,1,1,A7F6 A7F8,A7F8,1,1,127 A7F9,A7F9,1,1,153
  AB5C,AB5C,1,1,A727 AB5D,AB5D,1,1,AB37 AB5E,AB5E,1,1,26B AB5F,AB5F,1,1,AB52 AB69,AB69,1,1,28D
  AB70,ABBF,1,1,13A0 FB20,FB20,1,1,5E2 FB21,FB21,1,1,5D0 FB22,FB23,1,1,5D3 FB24,FB26,1,1,5DB
  FB27,FB28,1,2,5E8 FB29,FB29,1,1,2B FB50,FB51,1,0,671 FB52,FB55,1,0,67B FB56,FB59,1,0,67E
  FB5A,FB5D,1,0,680 FB5E,FB61,1,0,67A FB62,FB65,1,0,67F FB66,FB69,1,0,679 FB6A,FB6D,1,0,6A4
  FB6E,FB71,1,0,6A6 FB72,FB75,1,0,684 FB76,FB79,1,0,683 FB7A,FB7D,1,0,686 FB7E,FB81,1,0,687
  FB82,FB83,1,0,68D FB84,FB85,1,0,68C FB86,FB87,1,0,68E FB88,FB89,1,0,688 FB8A,FB8B,1,0,698
  FB8C,FB8D,1,0,691 FB8E,FB91,1,0,6A9 FB92,FB95,1,0,6AF FB96,FB99,1,0,6B3 FB9A,FB9D,1,0,6B1
  FB9E,FB9F,1,0,6BA FBA0,FBA3,1,0,6BB FBA4,FBA5,1,0,6C0 FBA6,FBA9,1,0,6C1 FBAA,FBAD,1,0,6BE
  FBAE,FBAF,1,0,6D2 FBB0,FBB1,1,0,6D3 FBD3,FBD6,1,0,6AD FBD7,FBD8,1,0,6C7 FBD9,FBDA,1,0,6C6
  FBDB,FBDC,1,0,6C8 FBDE,FBDF,1,0,6CB FBE0,FBE1,1,0,6C5 FBE2,FBE3,1,0,6C9 FBE4,FBE7,1,0,6D0
  FBE8,FBE9,1,0,649 FBFC,FBFF,1,0,6CC FE10,FE10,1,1,2C FE11,FE11,1,1,3001 FE13,FE14,1,1,3A
  FE15,FE15,1,1,21 FE16,FE16,1,1,3F FE17,FE18,1,1,3016 FE31,FE31,1,1,2014 FE32,FE32,1,1,2013
  FE33,FE34,1,0,5F FE35,FE36,1,1,28 FE37,FE38,1,2,7B FE39,FE3A,1,1,3014 FE3B,FE3C,1,1,3010
  FE3D,FE3E,1,1,300A FE3F,FE40,1,1,3008 FE41,FE44,1,1,300C FE47,FE48,1,2,5B FE4D,FE4F,1,0,5F
  FE50,FE50,1,1,2C FE51,FE51,1,1,3001 FE54,FE54,1,1,3B FE55,FE55,1,1,3A FE56,FE56,1,1,3F
  FE57,FE57,1,1,21 FE58,FE58,1,1,2014 FE59,FE5A,1,1,28 FE5B,FE5C,1,2,7B FE5D,FE5E,1,1,3014
  FE5F,FE5F,1,1,23 FE60,FE60,1,1,26 FE61,FE62,1,1,2A FE63,FE63,1,1,2D FE64,FE65,1,2,3C
  FE66,FE66,1,1,3D FE68,FE68,1,1,5C FE69,FE6A,1,1,24 FE6B,FE6B,1,1,40 FE80,FE81,1,1,621
  FE82,FE83,1,1,622 FE84,FE85,1,1,623 FE86,FE87,1,1,624 FE88,FE89,1,1,625 FE8A,FE8C,1,0,626
  FE8D,FE8E,1,0,627 FE8F,FE92,1,0,628 FE93,FE94,1,0,629 FE95,FE98,1,0,62A FE99,FE9C,1,0,62B
  FE9D,FEA0,1,0,62C FEA1,FEA4,1,0,62D FEA5,FEA8,1,0,62E FEA9,FEAA,1,0,62F FEAB,FEAC,1,0,630
  FEAD,FEAE,1,0,631 FEAF,FEB0,1,0,632 FEB1,FEB4,1,0,633 FEB5,FEB8,1,0,634 FEB9,FEBC,1,0,635
  FEBD,FEC0,1,0,636 FEC1,FEC4,1,0,637 FEC5,FEC8,1,0,638 FEC9,FECC,1,0,639 FECD,FED0,1,0,63A
  FED1,FED4,1,0,641 FED5,FED8,1,0,642 FED9,FEDC,1,0,643 FEDD,FEE0,1,0,644 FEE1,FEE4,1,0,645
  FEE5,FEE8,1,0,646 FEE9,FEEC,1,0,647 FEED,FEEE,1,0,648 FEEF,FEF0,1,0,649 FEF1,FEF4,1,0,64A
  FF01,FF20,1,1,21 FF21,FF3A,1,1,61 FF3B,FF5E,1,1,5B FF5F,FF60,1,1,2985 FF61,FF61,1,1,2E
  FF62,FF63,1,1,300C FF64,FF64,1,1,3001 FF65,FF65,1,1,30FB FF66,FF66,1,1,30F2 FF67,FF6B,1,2,30A1
  FF6C,FF6E,1,2,30E3 FF6F,FF6F,1,1,30C3 FF70,FF70,1,1,30FC FF71,FF75,1,2,30A2 FF76,FF81,1,2,30AB
  FF82,FF85,1,2,30C4 FF86,FF8A,1,1,30CB FF8B,FF8B,1,1,30D2 FF8C,FF8C,1,1,30D5 FF8D,FF8D,1,1,30D8
  FF8E,FF8E,1,1,30DB FF8F,FF93,1,1,30DE FF94,FF96,1,2,30E4 FF97,FF9B,1,1,30E9 FF9C,FF9C,1,1,30EF
  FF9D,FF9D,1,1,30F3 FF9E,FF9F,1,1,3099 FFA1,FFA2,1,1,1100 FFA3,FFA3,1,1,11AA FFA4,FFA4,1,1,1102
  FFA5,FFA6,1,1,11AC FFA7,FFA9,1,1,1103 FFAA,FFAF,1,1,11B0 FFB0,FFB0,1,1,111A FFB1,FFB3,1,1,1106
  FFB4,FFB4,1,1,1121 FFB5,FFBE,1,1,1109 FFC2,FFC7,1,1,1161 FFCA,FFCF,1,1,1167 FFD2,FFD7,1,1,116D
  FFDA,FFDC,1,1,1173 FFE0,FFE1,1,1,A2 FFE2,FFE2,1,1,AC FFE4,FFE4,1,1,A6 FFE5,FFE5,1,1,A5
  FFE6,FFE6,1,1,20A9 FFE8,FFE8,1,1,2502 FFE9,FFEC,1,1,2190 FFED,FFED,1,1,25A0 FFEE,FFEE,1,1,25CB
  10400,10427,1,1,10428 104B0,104D3,1,1,104D8 10570,1057A,1,1,10597 1057C,1058A,1,1,105A3
  1058C,10592,1,1,105B3 10594,10595,1,1,105BB 10781,10782,1,1,2D0 10783,10783,1,1,E6
  10784,10784,1,1,299 10785,10785,1,1,253 10787,10787,1,1,2A3 10788,10788,1,1,AB66
  10789,10789,1,1,2A5 1078A,1078A,1,1,2A4 1078B,1078C,1,1,256 1078D,1078D,1,1,1D91
  1078E,1078E,1,1,258 1078F,1078F,1,1,25E 10790,10790,1,1,2A9 10791,10791,1,1,264
  10792,10792,1,1,262 10793,10793,1,1,260 10794,10794,1,1,29B 10795,10795,1,1,127
  10796,10796,1,1,29C 10797,10797,1,1,267 10798,10798,1,1,284 10799,1079A,1,1,2AA
  1079B,1079B,1,1,26C 1079C,1079C,1,1,1DF04 1079D,1079D,1,1,A78E 1079E,1079E,1,1,26E
  1079F,1079F,1,1,1DF05 107A0,107A0,1,1,28E 107A1,107A1,1,1,1DF06 107A2,107A2,1,1,F8
  107A3,107A4,1,1,276 107A5,107A5,1,1,71 107A6,107A6,1,1,27A 107A7,107A7,1,1,1DF08
  107A8,107A9,1,1,27D 107AA,107AA,1,1,280 107AB,107AB,1,1,2A8 107AC,107AC,1,1,2A6
  107AD,107AD,1,1,AB67 107AE,107AE,1,1,2A7 107AF,107AF,1,1,288 107B0,107B0,1,1,2C71
  107B2,107B2,1,1,28F 107B3,107B4,1,1,2A1 107B5,107B5,1,1,298 107B6,107B8,1,1,1C0
  107B9,107B9,1,1,1DF0A 107BA,107BA,1,1,1DF1E 10C80,10CB2,1,1,10CC0 118A0,118BF,1,1,118C0
  16E40,16E5F,1,1,16E60 1D400,1D419,1,1,61 1D41A,1D433,1,1,61 1D434,1D44D,1,1,61 1D44E,1D454,1,1,61
  1D456,1D467,1,1,69 1D468,1D481,1,1,61 1D482,1D49B,1,1,61 1D49C,1D49E,2,2,61 1D49F,1D49F,1,1,64
  1D4A2,1D4A2,1,1,67 1D4A5,1D4A6,1,1,6A 1D4A9,1D4AC,1,1,6E 1D4AE,1D4B5,1,1,73 1D4B6,1D4B9,1,1,61
  1D4BB,1D4BD,2,2,66 1D4BE,1D4C3,1,1,69 1D4C5,1D4CF,1,1,70 1D4D0,1D4E9,1,1,61 1D4EA,1D503,1,1,61
  1D504,1D505,1,1,61 1D507,1D50A,1,1,64 1D50D,1D514,1,1,6A 1D516,1D51C,1,1,73 1D51E,1D537,1,1,61
  1D538,1D539,1,1,61 1D53B,1D53E,1,1,64 1D540,1D544,1,1,69 1D546,1D546,1,1,6F 1D54A,1D550,1,1,73
  1D552,1D56B,1,1,61 1D56C,1D585,1,1,61 1D586,1D59F,1,1,61 1D5A0,1D5B9,1,1,61 1D5BA,1D5D3,1,1,61
  1D5D4,1D5ED,1,1,61 1D5EE,1D607,1,1,61 1D608,1D621,1,1,61 1D622,1D63B,1,1,61 1D63C,1D655,1,1,61
  1D656,1D66F,1,1,61 1D670,1D689,1,1,61 1D68A,1D6A3,1,1,61 1D6A4,1D6A4,1,1,131 1D6A5,1D6A5,1,1,237
  1D6A8,1D6B8,1,1,3B1 1D6B9,1D6B9,1,1,3B8 1D6BA,1D6C0,1,1,3C3 1D6C1,1D6C1,1,1,2207
  1D6C2,1D6D2,1,1,3B1 1D6D3,1D6D4,1,0,3C3 1D6D5,1D6DA,1,1,3C4 1D6DB,1D6DB,1,1,2202
  1D6DC,1D6DC,1,1,3B5 1D6DD,1D6DE,1,2,3B8 1D6DF,1D6DF,1,1,3C6 1D6E0,1D6E0,1,1,3C1
  1D6E1,1D6E1,1,1,3C0 1D6E2,1D6F2,1,1,3B1 1D6F3,1D6F3,1,1,3B8 1D6F4,1D6FA,1,1,3C3
  1D6FB,1D6FB,1,1,2207 1D6FC,1D70C,1,1,3B1 1D70D,1D70E,1,0,3C3 1D70F,1D714,1,1,3C4
  1D715,1D715,1,1,2202 1D716,1D716,1,1,3B5 1D717,1D718,1,2,3B8 1D719,1D719,1,1,3C6
  1D71A,1D71A,1,1,3C1 1D71B,1D71B,1,1,3C0 1D71C,1D72C,1,1,3B1 1D72D,1D72D,1,1,3B8
  1D72E,1D734,1,1,3C3 1D735,1D735,1,1,2207 1D736,1D746,1,1,3B1 1D747,1D748,1,0,3C3
  1D749,1D74E,1,1,3C4 1D74F,1D74F,1,1,2202 1D750,1D750,1,1,3B5 1D751,1D752,1,2,3B8
  1D753,1D753,1,1,3C6 1D754,1D754,1,1,3C1 1D755,1D755,1,1,3C0 1D756,1D766,1,1,3B1
  1D767,1D767,1,1,3B8 1D768,1D76E,1,1,3C3 1D76F,1D76F,1,1,2207 1D770,1D780,1,1,3B1
  1D781,1D782,1,0,3C3 1D783,1D788,1,1,3C4 1D789,1D789,1,1,2202 1D78A,1D78A,1,1,3B5
  1D78B,1D78C,1,2,3B8 1D78D,1D78D,1,1,3C6 1D78E,1D78E,1,1,3C1 1D78F,1D78F,1,1,3C0
  1D790,1D7A0,1,1,3B1 1D7A1,1D7A1,1,1,3B8 1D7A2,1D7A8,1,1,3C3 1D7A9,1D7A9,1,1,2207
  1D7AA,1D7BA,1,1,3B1 1D7BB,1D7BC,1,0,3C3 1D7BD,1D7C2,1,1,3C4 1D7C3,1D7C3,1,1,2202
  1D7C4,1D7C4,1,1,3B5 1D7C5,1D7C6,1,2,3B8 1D7C7,1D7C7,1,1,3C6 1D7C8,1D7C8,1,1,3C1
  1D7C9,1D7C9,1,1,3C0 1D7CA,1D7CB,1,0,3DD 1D7CE,1D7D7,1,1,30 1D7D8,1D7E1,1,1,30 1D7E2,1D7EB,1,1,30
  1D7EC,1D7F5,1,1,30 1D7F6,1D7FF,1,1,30 1E030,1E038,1,1,430 1E039,1E03B,1,1,43A 1E03C,1E046,1,1,43E
  1E047,1E048,1,2,44B 1E049,1E049,1,1,44E 1E04A,1E04A,1,1,A689 1E04B,1E04B,1,1,4D9
  1E04C,1E04D,1,2,456 1E04E,1E04E,1,1,4E9 1E04F,1E04F,1,1,4AF 1E050,1E050,1,1,4CF
  1E051,1E059,1,1,430 1E05A,1E05B,1,1,43A 1E05C,1E05D,1,1,43E 1E05E,1E05F,1,2,441
  1E060,1E064,1,1,444 1E065,1E066,1,1,44A 1E067,1E067,1,1,491 1E068,1E068,1,1,456
  1E069,1E069,1,1,455 1E06A,1E06A,1,1,45F 1E06B,1E06B,1,1,4AB 1E06C,1E06C,1,1,A651
  1E06D,1E06D,1,1,4B1 1E900,1E921,1,1,1E922 1EE00,1EE01,1,1,627 1EE02,1EE02,1,1,62C
  1EE03,1EE03,1,1,62F 1EE05,1EE05,1,1,648 1EE06,1EE06,1,1,632 1EE07,1EE07,1,1,62D
  1EE08,1EE08,1,1,637 1EE09,1EE09,1,1,64A 1EE0A,1EE0D,1,1,643 1EE0E,1EE0E,1,1,633
  1EE0F,1EE0F,1,1,639 1EE10,1EE10,1,1,641 1EE11,1EE11,1,1,635 1EE12,1EE12,1,1,642
  1EE13,1EE13,1,1,631 1EE14,1EE14,1,1,634 1EE15,1EE16,1,1,62A 1EE17,1EE18,1,2,62E
  1EE19,1EE1B,1,2,636 1EE1C,1EE1C,1,1,66E 1EE1D,1EE1D,1,1,6BA 1EE1E,1EE1E,1,1,6A1
  1EE1F,1EE1F,1,1,66F 1EE21,1EE21,1,1,628 1EE22,1EE22,1,1,62C 1EE24,1EE24,1,1,647
  1EE27,1EE27,1,1,62D 1EE29,1EE29,1,1,64A 1EE2A,1EE2D,1,1,643 1EE2E,1EE2E,1,1,633
  1EE2F,1EE2F,1,1,639 1EE30,1EE30,1,1,641 1EE31,1EE31,1,1,635 1EE32,1EE32,1,1,642
  1EE34,1EE34,1,1,634 1EE35,1EE36,1,1,62A 1EE37,1EE37,1,1,62E 1EE39,1EE39,1,1,636
  1EE3B,1EE3B,1,1,63A 1EE42,1EE42,1,1,62C 1EE47,1EE47,1,1,62D 1EE49,1EE49,1,1,64A
  1EE4B,1EE4D,2,2,644 1EE4E,1EE4E,1,1,633 1EE4F,1EE4F,1,1,639 1EE51,1EE51,1,1,635
  1EE52,1EE52,1,1,642 1EE54,1EE54,1,1,634 1EE57,1EE57,1,1,62E 1EE59,1EE59,1,1,636
  1EE5B,1EE5B,1,1,63A 1EE5D,1EE5D,1,1,6BA 1EE5F,1EE5F,1,1,66F 1EE61,1EE61,1,1,628
  1EE62,1EE62,1,1,62C 1EE64,1EE64,1,1,647 1EE67,1EE67,1,1,62D 1EE68,1EE68,1,1,637
  1EE69,1EE69,1,1,64A 1EE6A,1EE6C,2,2,643 1EE6D,1EE6D,1,1,646 1EE6E,1EE6E,1,1,633
  1EE6F,1EE6F,1,1,639 1EE70,1EE70,1,1,641 1EE71,1EE71,1,1,635 1EE72,1EE72,1,1,642
  1EE74,1EE74,1,1,634 1EE75,1EE76,1,1,62A 1EE77,1EE77,1,1,62E 1EE79,1EE7B,1,2,636
  1EE7C,1EE7C,1,1,66E 1EE7E,1EE7E,1,1,6A1 1EE80,1EE81,1,1,627 1EE82,1EE82,1,1,62C
  1EE83,1EE83,1,1,62F 1EE84,1EE85,1,1,647 1EE86,1EE86,1,1,632 1EE87,1EE87,1,1,62D
  1EE88,1EE88,1,1,637 1EE89,1EE89,1,1,64A 1EE8B,1EE8D,1,1,644 1EE8E,1EE8E,1,1,633
  1EE8F,1EE8F,1,1,639 1EE90,1EE90,1,1,641 1EE91,1EE91,1,1,635 1EE92,1EE92,1,1,642
  1EE93,1EE93,1,1,631 1EE94,1EE94,1,1,634 1EE95,1EE96,1,1,62A 1EE97,1EE98,1,2,62E
  1EE99,1EE9B,1,2,636 1EEA1,1EEA1,1,1,628 1EEA2,1EEA2,1,1,62C 1EEA3,1EEA3,1,1,62F
  1EEA5,1EEA5,1,1,648 1EEA6,1EEA6,1,1,632 1EEA7,1EEA7,1,1,62D 1EEA8,1EEA8,1,1,637
  1EEA9,1EEA9,1,1,64A 1EEAB,1EEAD,1,1,644 1EEAE,1EEAE,1,1,633 1EEAF,1EEAF,1,1,639
  1EEB0,1EEB0,1,1,641 1EEB1,1EEB1,1,1,635 1EEB2,1EEB2,1,1,642 1EEB3,1EEB3,1,1,631
  1EEB4,1EEB4,1,1,634 1EEB5,1EEB6,1,1,62A 1EEB7,1EEB8,1,2,62E 1EEB9,1EEBB,1,2,636
  1F12B,1F12B,1,1,63 1F12C,1F12C,1,1,72 1F130,1F149,1,1,61 1F202,1F202,1,1,30B5
  1F210,1F210,1,1,624B 1F211,1F211,1,1,5B57 1F212,1F212,1,1,53CC 1F213,1F213,1,1,30C7
  1F214,1F214,1,1,4E8C 1F215,1F215,1,1,591A 1F216,1F216,1,1,89E3 1F217,1F217,1,1,5929
  1F218,1F218,1,1,4EA4 1F219,1F219,1,1,6620 1F21A,1F21A,1,1,7121 1F21B,1F21B,1,1,6599
  1F21C,1F21C,1,1,524D 1F21D,1F21D,1,1,5F8C 1F21E,1F21E,1,1,518D 1F21F,1F21F,1,1,65B0
  1F220,1F220,1,1,521D 1F221,1F221,1,1,7D42 1F222,1F222,1,1,751F 1F223,1F223,1,1,8CA9
  1F224,1F224,1,1,58F0 1F225,1F225,1,1,5439 1F226,1F226,1,1,6F14 1F227,1F227,1,1,6295
  1F228,1F228,1,1,6355 1F229,1F229,1,1,4E00 1F22A,1F22A,1,1,4E09 1F22B,1F22B,1,1,904A
  1F22C,1F22C,1,1,5DE6 1F22D,1F22D,1,1,4E2D 1F22E,1F22E,1,1,53F3 1F22F,1F22F,1,1,6307
  1F230,1F230,1,1,8D70 1F231,1F231,1,1,6253 1F232,1F232,1,1,7981 1F233,1F233,1,1,7A7A
  1F234,1F234,1,1,5408 1F235,1F235,1,1,6E80 1F236,1F236,1,1,6709 1F237,1F237,1,1,6708
  1F238,1F238,1,1,7533 1F239,1F239,1,1,5272 1F23A,1F23A,1,1,55B6 1F23B,1F23B,1,1,914D
  1F250,1F250,1,1,5F97 1F251,1F251,1,1,53EF 1FBF0,1FBF9,1,1,30 2F874,2F874,1,1,5F33"

/-- Characters that are replaced by none or by several: the character, and then its replacement. -/
def replacedTexts : String := "
  A8,20,308 AF,20,304 B4,20,301 B8,20,327 BC,31,2044,34 BD,31,2044,32 BE,33,2044,34 130,69,307
  132,69,6A 133,69,6A 13F,6C,B7 140,6C,B7 149,2BC,6E 1C4,64,17E 1C5,64,17E 1C6,64,17E 1C7,6C,6A
  1C8,6C,6A 1C9,6C,6A 1CA,6E,6A 1CB,6E,6A 1CC,6E,6A 1F1,64,7A 1F2,64,7A 1F3,64,7A 2D8,20,306
  2D9,20,307 2DA,20,30A 2DB,20,328 2DC,20,303 2DD,20,30B 37A,20,3B9 384,20,301 385,20,308,301
  587,565,582 675,627,674 676,648,674 677,6C7,674 678,64A,674 E33,E4D,E32 EB3,ECD,EB2 EDC,EAB,E99
  EDD,EAB,EA1 F77,FB2,F71,F80 F79,FB3,F71,F80 1E9A,61,2BE 1F80,1F00,3B9 1F81,1F01,3B9 1F82,1F02,3B9
  1F83,1F03,3B9 1F84,1F04,3B9 1F85,1F05,3B9 1F86,1F06,3B9 1F87,1F07,3B9 1F88,1F00,3B9 1F89,1F01,3B9
  1F8A,1F02,3B9 1F8B,1F03,3B9 1F8C,1F04,3B9 1F8D,1F05,3B9 1F8E,1F06,3B9 1F8F,1F07,3B9 1F90,1F20,3B9
  1F91,1F21,3B9 1F92,1F22,3B9 1F93,1F23,3B9 1F94,1F24,3B9 1F95,1F25,3B9 1F96,1F26,3B9 1F97,1F27,3B9
  1F98,1F20,3B9 1F99,1F21,3B9 1F9A,1F22,3B9 1F9B,1F23,3B9 1F9C,1F24,3B9 1F9D,1F25,3B9 1F9E,1F26,3B9
  1F9F,1F27,3B9 1FA0,1F60,3B9 1FA1,1F61,3B9 1FA2,1F62,3B9 1FA3,1F63,3B9 1FA4,1F64,3B9 1FA5,1F65,3B9
  1FA6,1F66,3B9 1FA7,1F67,3B9 1FA8,1F60,3B9 1FA9,1F61,3B9 1FAA,1F62,3B9 1FAB,1F63,3B9 1FAC,1F64,3B9
  1FAD,1F65,3B9 1FAE,1F66,3B9 1FAF,1F67,3B9 1FB2,1F70,3B9 1FB3,3B1,3B9 1FB4,3AC,3B9 1FB7,1FB6,3B9
  1FBC,3B1,3B9 1FBD,20,313 1FBF,20,313 1FC0,20,342 1FC1,20,308,342 1FC2,1F74,3B9 1FC3,3B7,3B9
  1FC4,3AE,3B9 1FC7,1FC6,3B9 1FCC,3B7,3B9 1FCD,20,313,300 1FCE,20,313,301 1FCF,20,313,342
  1FDD,20,314,300 1FDE,20,314,301 1FDF,20,314,342 1FED,20,308,300 1FEE,20,308,301 1FF2,1F7C,3B9
  1FF3,3C9,3B9 1FF4,3CE,3B9 1FF7,1FF6,3B9 1FFC,3C9,3B9 1FFD,20,301 1FFE,20,314 2017,20,333
  2033,2032,2032 2034,2032,2032,2032 2036,2035,2035 2037,2035,2035,2035 203C,21,21 203E,20,305
  2047,3F,3F 2048,3F,21 2049,21,3F 2057,2032,2032,2032,2032 20A8,72,73 2100,61,2F,63 2101,61,2F,73
  2103,B0,63 2105,63,2F,6F 2106,63,2F,75 2109,B0,66 2116,6E,6F 2120,73,6D 2121,74,65,6C 2122,74,6D
  213B,66,61,78 2150,31,2044,37 2151,31,2044,39 2152,31,2044,31,30 2153,31,2044,33 2154,32,2044,33
  2155,31,2044,35 2156,32,2044,35 2157,33,2044,35 2158,34,2044,35 2159,31,2044,36 215A,35,2044,36
  215B,31,2044,38 215C,33,2044,38 215D,35,2044,38 215E,37,2044,38 215F,31,2044 2161,69,69
  2162,69,69,69 2163,69,76 2165,76,69 2166,76,69,69 2167,76,69,69,69 2168,69,78 216A,78,69
  216B,78,69,69 2171,69,69 2172,69,69,69 2173,69,76 2175,76,69 2176,76,69,69 2177,76,69,69,69
  2178,69,78 217A,78,69 217B,78,69,69 2189,30,2044,33 222C,222B,222B 222D,222B,222B,222B
  222F,222E,222E 2230,222E,222E,222E 2469,31,30 246A,31,31 246B,31,32 246C,31,33 246D,31,34
  246E,31,35 246F,31,36 2470,31,37 2471,31,38 2472,31,39 2473,32,30 2474,28,31,29 2475,28,32,29
  2476,28,33,29 2477,28,34,29 2478,28,35,29 2479,28,36,29 247A,28,37,29 247B,28,38,29 247C,28,39,29
  247D,28,31,30,29 247E,28,31,31,29 247F,28,31,32,29 2480,28,31,33,29 2481,28,31,34,29
  2482,28,31,35,29 2483,28,31,36,29 2484,28,31,37,29 2485,28,31,38,29 2486,28,31,39,29
  2487,28,32,30,29 249C,28,61,29 249D,28,62,29 249E,28,63,29 249F,28,64,29 24A0,28,65,29
  24A1,28,66,29 24A2,28,67,29 24A3,28,68,29 24A4,28,69,29 24A5,28,6A,29 24A6,28,6B,29 24A7,28,6C,29
  24A8,28,6D,29 24A9,28,6E,29 24AA,28,6F,29 24AB,28,70,29 24AC,28,71,29 24AD,28,72,29 24AE,28,73,29
  24AF,28,74,29 24B0,28,75,29 24B1,28,76,29 24B2,28,77,29 24B3,28,78,29 24B4,28,79,29 24B5,28,7A,29
  2A0C,222B,222B,222B,222B 2A74,3A,3A,3D 2A75,3D,3D 2A76,3D,3D,3D 309B,20,3099 309C,20,309A
  309F,3088,308A 30FF,30B3,30C8 3200,28,1100,29 3201,28,1102,29 3202,28,1103,29 3203,28,1105,29
  3204,28,1106,29 3205,28,1107,29 3206,28,1109,29 3207,28,110B,29 3208,28,110C,29 3209,28,110E,29
  320A,28,110F,29 320B,28,1110,29 320C,28,1111,29 320D,28,1112,29 320E,28,AC00,29 320F,28,B098,29
  3210,28,B2E4,29 3211,28,B77C,29 3212,28,B9C8,29 3213,28,BC14,29 3214,28,C0AC,29 3215,28,C544,29
  3216,28,C790,29 3217,28,CC28,29 3218,28,CE74,29 3219,28,D0C0,29 321A,28,D30C,29 321B,28,D558,29
  321C,28,C8FC,29 321D,28,C624,C804,29 321E,28,C624,D6C4,29 3220,28,4E00,29 3221,28,4E8C,29
  3222,28,4E09,29 3223,28,56DB,29 3224,28,4E94,29 3225,28,516D,29 3226,28,4E03,29 3227,28,516B,29
  3228,28,4E5D,29 3229,28,5341,29 322A,28,6708,29 322B,28,706B,29 322C,28,6C34,29 322D,28,6728,29
  322E,28,91D1,29 322F,28,571F,29 3230,28,65E5,29 3231,28,682A,29 3232,28,6709,29 3233,28,793E,29
  3234,28,540D,29 3235,28,7279,29 3236,28,8CA1,29 3237,28,795D,29 3238,28,52B4,29 3239,28,4EE3,29
  323A,28,547C,29 323B,28,5B66,29 323C,28,76E3,29 323D,28,4F01,29 323E,28,8CC7,29 323F,28,5354,29
  3240,28,796D,29 3241,28,4F11,29 3242,28,81EA,29 3243,28,81F3,29 3250,70,74,65 3251,32,31
  3252,32,32 3253,32,33 3254,32,34 3255,32,35 3256,32,36 3257,32,37 3258,32,38 3259,32,39
  325A,33,30 325B,33,31 325C,33,32 325D,33,33 325E,33,34 325F,33,35 327C,CC38,ACE0 327D,C8FC,C758
  32B1,33,36 32B2,33,37 32B3,33,38 32B4,33,39 32B5,34,30 32B6,34,31 32B7,34,32 32B8,34,33
  32B9,34,34 32BA,34,35 32BB,34,36 32BC,34,37 32BD,34,38 32BE,34,39 32BF,35,30 32C0,31,6708
  32C1,32,6708 32C2,33,6708 32C3,34,6708 32C4,35,6708 32C5,36,6708 32C6,37,6708 32C7,38,6708
  32C8,39,6708 32C9,31,30,6708 32CA,31,31,6708 32CB,31,32,6708 32CC,68,67 32CD,65,72,67 32CE,65,76
  32CF,6C,74,64 32FF,4EE4,548C 3300,30A2,30D1,30FC,30C8 3301,30A2,30EB,30D5,30A1
  3302,30A2,30F3,30DA,30A2 3303,30A2,30FC,30EB 3304,30A4,30CB,30F3,30B0 3305,30A4,30F3,30C1
  3306,30A6,30A9,30F3 3307,30A8,30B9,30AF,30FC,30C9 3308,30A8,30FC,30AB,30FC 3309,30AA,30F3,30B9
  330A,30AA,30FC,30E0 330B,30AB,30A4,30EA 330C,30AB,30E9,30C3,30C8 330D,30AB,30ED,30EA,30FC
  330E,30AC,30ED,30F3 330F,30AC,30F3,30DE 3310,30AE,30AC 3311,30AE,30CB,30FC
  3312,30AD,30E5,30EA,30FC 3313,30AE,30EB,30C0,30FC 3314,30AD,30ED 3315,30AD,30ED,30B0,30E9,30E0
  3316,30AD,30ED,30E1,30FC,30C8,30EB 3317,30AD,30ED,30EF,30C3,30C8 3318,30B0,30E9,30E0
  3319,30B0,30E9,30E0,30C8,30F3 331A,30AF,30EB,30BC,30A4,30ED 331B,30AF,30ED,30FC,30CD
  331C,30B1,30FC,30B9 331D,30B3,30EB,30CA 331E,30B3,30FC,30DD 331F,30B5,30A4,30AF,30EB
  3320,30B5,30F3,30C1,30FC,30E0 3321,30B7,30EA,30F3,30B0 3322,30BB,30F3,30C1 3323,30BB,30F3,30C8
  3324,30C0,30FC,30B9 3325,30C7,30B7 3326,30C9,30EB 3327,30C8,30F3 3328,30CA,30CE
  3329,30CE,30C3,30C8 332A,30CF,30A4,30C4 332B,30D1,30FC,30BB,30F3,30C8 332C,30D1,30FC,30C4
  332D,30D0,30FC,30EC,30EB 332E,30D4,30A2,30B9,30C8,30EB 332F,30D4,30AF,30EB 3330,30D4,30B3
  3331,30D3,30EB 3332,30D5,30A1,30E9,30C3,30C9 3333,30D5,30A3,30FC,30C8
  3334,30D6,30C3,30B7,30A7,30EB 3335,30D5,30E9,30F3 3336,30D8,30AF,30BF,30FC,30EB 3337,30DA,30BD
  3338,30DA,30CB,30D2 3339,30D8,30EB,30C4 333A,30DA,30F3,30B9 333B,30DA,30FC,30B8
  333C,30D9,30FC,30BF 333D,30DD,30A4,30F3,30C8 333E,30DC,30EB,30C8 333F,30DB,30F3
  3340,30DD,30F3,30C9 3341,30DB,30FC,30EB 3342,30DB,30FC,30F3 3343,30DE,30A4,30AF,30ED
  3344,30DE,30A4,30EB 3345,30DE,30C3,30CF 3346,30DE,30EB,30AF 3347,30DE,30F3,30B7,30E7,30F3
  3348,30DF,30AF,30ED,30F3 3349,30DF,30EA 334A,30DF,30EA,30D0,30FC,30EB 334B,30E1,30AC
  334C,30E1,30AC,30C8,30F3 334D,30E1,30FC,30C8,30EB 334E,30E4,30FC,30C9 334F,30E4,30FC,30EB
  3350,30E6,30A2,30F3 3351,30EA,30C3,30C8,30EB 3352,30EA,30E9 3353,30EB,30D4,30FC
  3354,30EB,30FC,30D6,30EB 3355,30EC,30E0 3356,30EC,30F3,30C8,30B2,30F3 3357,30EF,30C3,30C8
  3358,30,70B9 3359,31,70B9 335A,32,70B9 335B,33,70B9 335C,34,70B9 335D,35,70B9 335E,36,70B9
  335F,37,70B9 3360,38,70B9 3361,39,70B9 3362,31,30,70B9 3363,31,31,70B9 3364,31,32,70B9
  3365,31,33,70B9 3366,31,34,70B9 3367,31,35,70B9 3368,31,36,70B9 3369,31,37,70B9 336A,31,38,70B9
  336B,31,39,70B9 336C,32,30,70B9 336D,32,31,70B9 336E,32,32,70B9 336F,32,33,70B9 3370,32,34,70B9
  3371,68,70,61 3372,64,61 3373,61,75 3374,62,61,72 3375,6F,76 3376,70,63 3377,64,6D 3378,64,6D,32
  3379,64,6D,33 337A,69,75 337B,5E73,6210 337C,662D,548C 337D,5927,6B63 337E,660E,6CBB
  337F,682A,5F0F,4F1A,793E 3380,70,61 3381,6E,61 3382,3BC,61 3383,6D,61 3384,6B,61 3385,6B,62
  3386,6D,62 3387,67,62 3388,63,61,6C 3389,6B,63,61,6C 338A,70,66 338B,6E,66 338C,3BC,66
  338D,3BC,67 338E,6D,67 338F,6B,67 3390,68,7A 3391,6B,68,7A 3392,6D,68,7A 3393,67,68,7A
  3394,74,68,7A 3395,3BC,6C 3396,6D,6C 3397,64,6C 3398,6B,6C 3399,66,6D 339A,6E,6D 339B,3BC,6D
  339C,6D,6D 339D,63,6D 339E,6B,6D 339F,6D,6D,32 33A0,63,6D,32 33A1,6D,32 33A2,6B,6D,32
  33A3,6D,6D,33 33A4,63,6D,33 33A5,6D,33 33A6,6B,6D,33 33A7,6D,2215,73 33A8,6D,2215,73,32
  33A9,70,61 33AA,6B,70,61 33AB,6D,70,61 33AC,67,70,61 33AD,72,61,64 33AE,72,61,64,2215,73
  33AF,72,61,64,2215,73,32 33B0,70,73 33B1,6E,73 33B2,3BC,73 33B3,6D,73 33B4,70,76 33B5,6E,76
  33B6,3BC,76 33B7,6D,76 33B8,6B,76 33B9,6D,76 33BA,70,77 33BB,6E,77 33BC,3BC,77 33BD,6D,77
  33BE,6B,77 33BF,6D,77 33C0,6B,3C9 33C1,6D,3C9 33C3,62,71 33C4,63,63 33C5,63,64 33C6,63,2215,6B,67
  33C8,64,62 33C9,67,79 33CA,68,61 33CB,68,70 33CC,69,6E 33CD,6B,6B 33CE,6B,6D 33CF,6B,74
  33D0,6C,6D 33D1,6C,6E 33D2,6C,6F,67 33D3,6C,78 33D4,6D,62 33D5,6D,69,6C 33D6,6D,6F,6C 33D7,70,68
  33D9,70,70,6D 33DA,70,72 33DB,73,72 33DC,73,76 33DD,77,62 33DE,76,2215,6D 33DF,61,2215,6D
  33E0,31,65E5 33E1,32,65E5 33E2,33,65E5 33E3,34,65E5 33E4,35,65E5 33E5,36,65E5 33E6,37,65E5
  33E7,38,65E5 33E8,39,65E5 33E9,31,30,65E5 33EA,31,31,65E5 33EB,31,32,65E5 33EC,31,33,65E5
  33ED,31,34,65E5 33EE,31,35,65E5 33EF,31,36,65E5 33F0,31,37,65E5 33F1,31,38,65E5 33F2,31,39,65E5
  33F3,32,30,65E5 33F4,32,31,65E5 33F5,32,32,65E5 33F6,32,33,65E5 33F7,32,34,65E5 33F8,32,35,65E5
  33F9,32,36,65E5 33FA,32,37,65E5 33FB,32,38,65E5 33FC,32,39,65E5 33FD,33,30,65E5 33FE,33,31,65E5
  33FF,67,61,6C FB00,66,66 FB01,66,69 FB02,66,6C FB03,66,66,69 FB04,66,66,6C FB05,73,74 FB06,73,74
  FB13,574,576 FB14,574,565 FB15,574,56B FB16,57E,576 FB17,574,56D FB4F,5D0,5DC FBDD,6C7,674
  FBEA,626,627 FBEB,626,627 FBEC,626,6D5 FBED,626,6D5 FBEE,626,648 FBEF,626,648 FBF0,626,6C7
  FBF1,626,6C7 FBF2,626,6C6 FBF3,626,6C6 FBF4,626,6C8 FBF5,626,6C8 FBF6,626,6D0 FBF7,626,6D0
  FBF8,626,6D0 FBF9,626,649 FBFA,626,649 FBFB,626,649 FC00,626,62C FC01,626,62D FC02,626,645
  FC03,626,649 FC04,626,64A FC05,628,62C FC06,628,62D FC07,628,62E FC08,628,645 FC09,628,649
  FC0A,628,64A FC0B,62A,62C FC0C,62A,62D FC0D,62A,62E FC0E,62A,645 FC0F,62A,649 FC10,62A,64A
  FC11,62B,62C FC12,62B,645 FC13,62B,649 FC14,62B,64A FC15,62C,62D FC16,62C,645 FC17,62D,62C
  FC18,62D,645 FC19,62E,62C FC1A,62E,62D FC1B,62E,645 FC1C,633,62C FC1D,633,62D FC1E,633,62E
  FC1F,633,645 FC20,635,62D FC21,635,645 FC22,636,62C FC23,636,62D FC24,636,62E FC25,636,645
  FC26,637,62D FC27,637,645 FC28,638,645 FC29,639,62C FC2A,639,645 FC2B,63A,62C FC2C,63A,645
  FC2D,641,62C FC2E,641,62D FC2F,641,62E FC30,641,645 FC31,641,649 FC32,641,64A FC33,642,62D
  FC34,642,645 FC35,642,649 FC36,642,64A FC37,643,627 FC38,643,62C FC39,643,62D FC3A,643,62E
  FC3B,643,644 FC3C,643,645 FC3D,643,649 FC3E,643,64A FC3F,644,62C FC40,644,62D FC41,644,62E
  FC42,644,645 FC43,644,649 FC44,644,64A FC45,645,62C FC46,645,62D FC47,645,62E FC48,645,645
  FC49,645,649 FC4A,645,64A FC4B,646,62C FC4C,646,62D FC4D,646,62E FC4E,646,645 FC4F,646,649
  FC50,646,64A FC51,647,62C FC52,647,645 FC53,647,649 FC54,647,64A FC55,64A,62C FC56,64A,62D
  FC57,64A,62E FC58,64A,645 FC59,64A,649 FC5A,64A,64A FC5B,630,670 FC5C,631,670 FC5D,649,670
  FC5E,20,64C,651 FC5F,20,64D,651 FC60,20,64E,651 FC61,20,64F,651 FC62,20,650,651 FC63,20,651,670
  FC64,626,631 FC65,626,632 FC66,626,645 FC67,626,646 FC68,626,649 FC69,626,64A FC6A,628,631
  FC6B,628,632 FC6C,628,645 FC6D,628,646 FC6E,628,649 FC6F,628,64A FC70,62A,631 FC71,62A,632
  FC72,62A,645 FC73,62A,646 FC74,62A,649 FC75,62A,64A FC76,62B,631 FC77,62B,632 FC78,62B,645
  FC79,62B,646 FC7A,62B,649 FC7B,62B,64A FC7C,641,649 FC7D,641,64A FC7E,642,649 FC7F,642,64A
  FC80,643,627 FC81,643,644 FC82,643,645 FC83,643,649 FC84,643,64A FC85,644,645 FC86,644,649
  FC87,644,64A FC88,645,627 FC89,645,645 FC8A,646,631 FC8B,646,632 FC8C,646,645 FC8D,646,646
  FC8E,646,649 FC8F,646,64A FC90,649,670 FC91,64A,631 FC92,64A,632 FC93,64A,645 FC94,64A,646
  FC95,64A,649 FC96,64A,64A FC97,626,62C FC98,626,62D FC99,626,62E FC9A,626,645 FC9B,626,647
  FC9C,628,62C FC9D,628,62D FC9E,628,62E FC9F,628,645 FCA0,628,647 FCA1,62A,62C FCA2,62A,62D
  FCA3,62A,62E FCA4,62A,645 FCA5,62A,647 FCA6,62B,645 FCA7,62C,62D FCA8,62C,645 FCA9,62D,62C
  FCAA,62D,645 FCAB,62E,62C FCAC,62E,645 FCAD,633,62C FCAE,633,62D FCAF,633,62E FCB0,633,645
  FCB1,635,62D FCB2,635,62E FCB3,635,645 FCB4,636,62C FCB5,636,62D FCB6,636,62E FCB7,636,645
  FCB8,637,62D FCB9,638,645 FCBA,639,62C FCBB,639,645 FCBC,63A,62C FCBD,63A,645 FCBE,641,62C
  FCBF,641,62D FCC0,641,62E FCC1,641,645 FCC2,642,62D FCC3,642,645 FCC4,643,62C FCC5,643,62D
  FCC6,643,62E FCC7,643,644 FCC8,643,645 FCC9,644,62C FCCA,644,62D FCCB,644,62E FCCC,644,645
  FCCD,644,647 FCCE,645,62C FCCF,645,62D FCD0,645,62E FCD1,645,645 FCD2,646,62C FCD3,646,62D
  FCD4,646,62E FCD5,646,645 FCD6,646,647 FCD7,647,62C FCD8,647,645 FCD9,647,670 FCDA,64A,62C
  FCDB,64A,62D FCDC,64A,62E FCDD,64A,645 FCDE,64A,647 FCDF,626,645 FCE0,626,647 FCE1,628,645
  FCE2,628,647 FCE3,62A,645 FCE4,62A,647 FCE5,62B,645 FCE6,62B,647 FCE7,633,645 FCE8,633,647
  FCE9,634,645 FCEA,634,647 FCEB,643,644 FCEC,643,645 FCED,644,645 FCEE,646,645 FCEF,646,647
  FCF0,64A,645 FCF1,64A,647 FCF2,640,64E,651 FCF3,640,64F,651 FCF4,640,650,651 FCF5,637,649
  FCF6,637,64A FCF7,639,649 FCF8,639,64A FCF9,63A,649 FCFA,63A,64A FCFB,633,649 FCFC,633,64A
  FCFD,634,649 FCFE,634,64A FCFF,62D,649 FD00,62D,64A FD01,62C,649 FD02,62C,64A FD03,62E,649
  FD04,62E,64A FD05,635,649 FD06,635,64A FD07,636,649 FD08,636,64A FD09,634,62C FD0A,634,62D
  FD0B,634,62E FD0C,634,645 FD0D,634,631 FD0E,633,631 FD0F,635,631 FD10,636,631 FD11,637,649
  FD12,637,64A FD13,639,649 FD14,639,64A FD15,63A,649 FD16,63A,64A FD17,633,649 FD18,633,64A
  FD19,634,649 FD1A,634,64A FD1B,62D,649 FD1C,62D,64A FD1D,62C,649 FD1E,62C,64A FD1F,62E,649
  FD20,62E,64A FD21,635,649 FD22,635,64A FD23,636,649 FD24,636,64A FD25,634,62C FD26,634,62D
  FD27,634,62E FD28,634,645 FD29,634,631 FD2A,633,631 FD2B,635,631 FD2C,636,631 FD2D,634,62C
  FD2E,634,62D FD2F,634,62E FD30,634,645 FD31,633,647 FD32,634,647 FD33,637,645 FD34,633,62C
  FD35,633,62D FD36,633,62E FD37,634,62C FD38,634,62D FD39,634,62E FD3A,637,645 FD3B,638,645
  FD3C,627,64B FD3D,627,64B FD50,62A,62C,645 FD51,62A,62D,62C FD52,62A,62D,62C FD53,62A,62D,645
  FD54,62A,62E,645 FD55,62A,645,62C FD56,62A,645,62D FD57,62A,645,62E FD58,62C,645,62D
  FD59,62C,645,62D FD5A,62D,645,64A FD5B,62D,645,649 FD5C,633,62D,62C FD5D,633,62C,62D
  FD5E,633,62C,649 FD5F,633,645,62D FD60,633,645,62D FD61,633,645,62C FD62,633,645,645
  FD63,633,645,645 FD64,635,62D,62D FD65,635,62D,62D FD66,635,645,645 FD67,634,62D,645
  FD68,634,62D,645 FD69,634,62C,64A FD6A,634,645,62E FD6B,634,645,62E FD6C,634,645,645
  FD6D,634,645,645 FD6E,636,62D,649 FD6F,636,62E,645 FD70,636,62E,645 FD71,637,645,62D
  FD72,637,645,62D FD73,637,645,645 FD74,637,645,64A FD75,639,62C,645 FD76,639,645,645
  FD77,639,645,645 FD78,639,645,649 FD79,63A,645,645 FD7A,63A,645,64A FD7B,63A,645,649
  FD7C,641,62E,645 FD7D,641,62E,645 FD7E,642,645,62D FD7F,642,645,645 FD80,644,62D,645
  FD81,644,62D,64A FD82,644,62D,649 FD83,644,62C,62C FD84,644,62C,62C FD85,644,62E,645
  FD86,644,62E,645 FD87,644,645,62D FD88,644,645,62D FD89,645,62D,62C FD8A,645,62D,645
  FD8B,645,62D,64A FD8C,645,62C,62D FD8D,645,62C,645 FD8E,645,62E,62C FD8F,645,62E,645
  FD92,645,62C,62E FD93,647,645,62C FD94,647,645,645 FD95,646,62D,645 FD96,646,62D,649
  FD97,646,62C,645 FD98,646,62C,645 FD99,646,62C,649 FD9A,646,645,64A FD9B,646,645,649
  FD9C,64A,645,645 FD9D,64A,645,645 FD9E,628,62E,64A FD9F,62A,62C,64A FDA0,62A,62C,649
  FDA1,62A,62E,64A FDA2,62A,62E,649 FDA3,62A,645,64A FDA4,62A,645,649 FDA5,62C,645,64A
  FDA6,62C,62D,649 FDA7,62C,645,649 FDA8,633,62E,649 FDA9,635,62D,64A FDAA,634,62D,64A
  FDAB,636,62D,64A FDAC,644,62C,64A FDAD,644,645,64A FDAE,64A,62D,64A FDAF,64A,62C,64A
  FDB0,64A,645,64A FDB1,645,645,64A FDB2,642,645,64A FDB3,646,62D,64A FDB4,642,645,62D
  FDB5,644,62D,645 FDB6,639,645,64A FDB7,643,645,64A FDB8,646,62C,62D FDB9,645,62E,64A
  FDBA,644,62C,645 FDBB,643,645,645 FDBC,644,62C,645 FDBD,646,62C,62D FDBE,62C,62D,64A
  FDBF,62D,62C,64A FDC0,645,62C,64A FDC1,641,645,64A FDC2,628,62D,64A FDC3,643,645,645
  FDC4,639,62C,645 FDC5,635,645,645 FDC6,633,62E,64A FDC7,646,62C,64A FDF0,635,644,6D2
  FDF1,642,644,6D2 FDF2,627,644,644,647 FDF3,627,643,628,631 FDF4,645,62D,645,62F
  FDF5,635,644,639,645 FDF6,631,633,648,644 FDF7,639,644,64A,647 FDF8,648,633,644,645
  FDF9,635,644,649 FDFA,635,644,649,20,627,644,644,647,20,639,644,64A,647,20,648,633,644,645
  FDFB,62C,644,20,62C,644,627,644,647 FDFC,631,6CC,627,644 FE49,20,305 FE4A,20,305 FE4B,20,305
  FE4C,20,305 FE70,20,64B FE71,640,64B FE72,20,64C FE74,20,64D FE76,20,64E FE77,640,64E FE78,20,64F
  FE79,640,64F FE7A,20,650 FE7B,640,650 FE7C,20,651 FE7D,640,651 FE7E,20,652 FE7F,640,652
  FEF5,644,622 FEF6,644,622 FEF7,644,623 FEF8,644,623 FEF9,644,625 FEFA,644,625 FEFB,644,627
  FEFC,644,627 FFE3,20,304 1F101,30,2C 1F102,31,2C 1F103,32,2C 1F104,33,2C 1F105,34,2C 1F106,35,2C
  1F107,36,2C 1F108,37,2C 1F109,38,2C 1F10A,39,2C 1F110,28,61,29 1F111,28,62,29 1F112,28,63,29
  1F113,28,64,29 1F114,28,65,29 1F115,28,66,29 1F116,28,67,29 1F117,28,68,29 1F118,28,69,29
  1F119,28,6A,29 1F11A,28,6B,29 1F11B,28,6C,29 1F11C,28,6D,29 1F11D,28,6E,29 1F11E,28,6F,29
  1F11F,28,70,29 1F120,28,71,29 1F121,28,72,29 1F122,28,73,29 1F123,28,74,29 1F124,28,75,29
  1F125,28,76,29 1F126,28,77,29 1F127,28,78,29 1F128,28,79,29 1F129,28,7A,29 1F12A,3014,73,3015
  1F12D,63,64 1F12E,77,7A 1F14A,68,76 1F14B,6D,76 1F14C,73,64 1F14D,73,73 1F14E,70,70,76
  1F14F,77,63 1F16A,6D,63 1F16B,6D,64 1F16C,6D,72 1F190,64,6A 1F200,307B,304B 1F201,30B3,30B3
  1F240,3014,672C,3015 1F241,3014,4E09,3015 1F242,3014,4E8C,3015 1F243,3014,5B89,3015
  1F244,3014,70B9,3015 1F245,3014,6253,3015 1F246,3014,76D7,3015 1F247,3014,52DD,3015
  1F248,3014,6557,3015"

end Checkup.Unicode
