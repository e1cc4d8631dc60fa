/-! How code points combine with and decompose into others. -/

namespace RuleGrammar.Unicode

/-- The classes of combining marks. -/
def combiningTable : String :=
  String.join
    ["A,ABOVE,230 300-314 33d-344 346 34a-34c 350-352 357 35b 363-36f 483-487 592-595 597-599 ",
      "59c-5a1 5a8-5a9 5ab-5ac 5af 5c4 610-617 653-654 657-65b 65d-65e 6d6-6dc 6df-6e2 6e4 ",
      "6e7-6e8 6eb-6ec 730 732-733 735-736 73a 73d 73f-741 743-747:2 749-74a 7eb-7f1 7f3 816-819 ",
      "81b-823 825-827 829-82d 898 89c-89f 8ca-8ce 8d4-8e1 8e4-8e5 8e7-8e8 8ea-8ec 8f3-8f5 ",
      "8f7-8f8 8fb-8ff 951 953-954 9fe f82-f83 f86-f87 135d-135f 17dd 193a 1a17 1a75-1a7c ",
      "1ab0-1ab4 1abb-1abc 1ac1-1ac2 1ac5-1ac9 1acb-1ace 1b6b 1b6d-1b73 1cd0-1cd2 1cda-1cdb 1ce0 ",
      "1cf4 1cf8-1cf9 1dc0-1dc1 1dc3-1dc9 1dcb-1dcc 1dd1-1df5 1dfb 1dfe 20d0-20d1 20d4-20d7 ",
      "20db-20dc 20e1 20e7 20e9 20f0 2cef-2cf1 2de0-2dff a66f a674-a67d a69e-a69f a6f0-a6f1 ",
      "a8e0-a8f1 aab0 aab2-aab3 aab7-aab8 aabe-aabf aac1 fe20-fe26 fe2e-fe2f 10376-1037a 10a0f ",
      "10a38 10ae5 10d24-10d27 10eab-10eac 10f48-10f4a 10f4c 10f82 10f84 11100-11102 11366-1136c ",
      "11370-11374 1145e 16b30-16b36 1d185-1d189 1d1aa-1d1ad 1d242-1d244 1e000-1e006 1e008-1e018 ",
      "1e01b-1e021 1e023-1e024 1e026-1e02a 1e08f 1e130-1e136 1e2ae 1e2ec-1e2ef 1e4ef ",
      "1e944-1e949;AL,ABOVELEFT,228 5ae 18a9 1df7-1df8 302b;AR,ABOVERIGHT,232 315 31a 358 1df6 ",
      "302c 1e4ec-1e4ed;ATA,ATTACHEDABOVE,214 1dce;ATAR,ATTACHEDABOVERIGHT,216 31b f39 ",
      "1d165-1d166 1d16e-1d172;ATB,ATTACHEDBELOW,202 321-322 327-328 ",
      "1dd0;ATBL,ATTACHEDBELOWLEFT,200;B,BELOW,220 316-319 31c-320 323-326 329-333 339-33c ",
      "347-349 34d-34e 353-356 359-35a 591-59b:5 5a2-5a7 5aa 5c5 655-656 65c 65f 6e3 6ea 6ed 731 ",
      "734 737-739 73b-73c 73e 742-748:2 7f2 7fd 859-85b 899-89b 8cf-8d3 8e3-8e9:3 8ed-8ef 8f6 ",
      "8f9-8fa 952 f18-f19 f35 f37 fc6 108d 193b 1a18 1a7f 1ab5-1aba 1abd 1abf-1ac0 1ac3-1ac4 ",
      "1aca 1b6c 1cd5-1cd9 1cdc-1cdf 1ced 1dc2 1dca 1dcf 1df9 1dfd 1dff 20e8 20ec-20ef a92b-a92d ",
      "aab4 fe27-fe2d 101fd 102e0 10a0d 10a3a 10ae6 10efd-10eff 10f46-10f47 10f4b 10f4d-10f50 ",
      "10f83 10f85 1d17b-1d182 1d18a-1d18b 1e4ee 1e8d0-1e8d6;BL,BELOWLEFT,218 1dfa ",
      "302a;BR,BELOWRIGHT,222 59a 5ad 1939 302d;CCC10,10 5b0;CCC103,103 e38-e39;CCC107,107 ",
      "e48-e4b;CCC11,11 5b1;CCC118,118 eb8-eb9;CCC12,12 5b2;CCC122,122 ec8-ecb;CCC129,129 ",
      "f71;CCC13,13 5b3;CCC130,130 f72 f7a-f7d f80;CCC132,132 f74;CCC133,133;CCC14,14 ",
      "5b4;CCC15,15 5b5;CCC16,16 5b6;CCC17,17 5b7;CCC18,18 5b8 5c7;CCC19,19 5b9-5ba;CCC20,20 ",
      "5bb;CCC21,21 5bc;CCC22,22 5bd;CCC23,23 5bf;CCC24,24 5c1;CCC25,25 5c2;CCC26,26 ",
      "fb1e;CCC27,27 64b 8f0;CCC28,28 64c 8f1;CCC29,29 64d 8f2;CCC30,30 618 64e;CCC31,31 619 ",
      "64f;CCC32,32 61a 650;CCC33,33 651;CCC34,34 652;CCC35,35 670;CCC36,36 711;CCC84,84 ",
      "c55;CCC91,91 c56;DA,DOUBLEABOVE,234 35d-35e 360-361 1dcd;DB,DOUBLEBELOW,233 35c-362:3 ",
      "1dfc;HANR,HANREADING,6 16ff0-16ff1;IS,IOTASUBSCRIPT,240 345;KV,KANAVOICING,8 ",
      "3099-309a;L,LEFT,224 302e-302f;NK,NUKTA,7 93c-b3c:80 c3c cbc 1037 1b34 1be6 1c37 a9b3 ",
      "110ba 11173 111ca 11236 112e9 1133b-1133c 11446 114c3 115c0 116b7 1183a 11943 11d42 ",
      "1e94a;OV,OVERLAY,1 334-338 1cd4 1ce2-1ce8 20d2-20d3 20d8-20da 20e5-20e6 20ea-20eb 10a39 ",
      "16af0-16af4 1bc9e 1d167-1d169;R,RIGHT,226 1d16d;VR,VIRAMA,9 94d-ccd:80 d3b-d3c d4d dca ",
      "e3a eba f84 1039-103a 1714-1715 1734 17d2 1a60 1b44 1baa-1bab 1bf2-1bf3 2d7f a806 a82c ",
      "a8c4 a953 a9c0 aaf6 abed 10a3f 11046 11070 1107f 110b9 11133-11134 111c0 11235 112ea ",
      "1134d 11442 114c2 115bf 1163f 116b6 1172b 11839 1193d-1193e 119e0 11a34 11a47 11a99 11c3f ",
      "11d44-11d45 11d97 11f41-11f42"]

/-- The kinds of decomposition. -/
def decompositionTable : String :=
  String.join
    ["CAN,CANONICAL c0-c5 c7-cf d1-d6 d9-dd e0-e5 e7-ef f1-f6 f9-fd ff-10f 112-125 128-130 ",
      "134-137 139-13e 143-148 14c-151 154-165 168-17e 1a0-1a1 1af-1b0 1cd-1dc 1de-1e3 1e6-1f0 ",
      "1f4-1f5 1f8-21b 21e-21f 226-233 340-341 343-344 374 37e 385-38a 38c 38e-390 3aa-3b0 ",
      "3ca-3ce 3d3-3d4 400-401 403 407 40c-40e 419 439 450-451 453 457 45c-45e 476-477 4c1-4c2 ",
      "4d0-4d3 4d6-4d7 4da-4df 4e2-4e7 4ea-4f5 4f8-4f9 622-626 6c0 6c2 6d3 929 931 934 958-95f ",
      "9cb-9cc 9dc-9dd 9df a33 a36 a59-a5b a5e b48 b4b-b4c b5c-b5d b94 bca-bcc c48 cc0 cc7-cc8 ",
      "cca-ccb d4a-d4c dda ddc-dde f43 f4d-f5c:5 f69 f73 f75-f76 f78 f81 f93 f9d-fac:5 fb9 1026 ",
      "1b06-1b0e:2 1b12 1b3b 1b3d 1b40-1b41 1b43 1e00-1e99 1e9b 1ea0-1ef9 1f00-1f15 1f18-1f1d ",
      "1f20-1f45 1f48-1f4d 1f50-1f57 1f59-1f5d:2 1f5f-1f7d 1f80-1fb4 1fb6-1fbc 1fbe 1fc1-1fc4 ",
      "1fc6-1fd3 1fd6-1fdb 1fdd-1fef 1ff2-1ff4 1ff6-1ffd 2000-2001 2126 212a-212b 219a-219b 21ae ",
      "21cd-21cf 2204 2209 220c 2224 2226 2241-2247:3 2249 2260 2262 226d-2271 2274-2275 ",
      "2278-2279 2280-2281 2284-2285 2288-2289 22ac-22af 22e0-22e3 22ea-22ed 2329-232a 2adc ",
      "304c-3062:2 3065-3069:2 3070-3071 3073-3074 3076-3077 3079-307a 307c-307d 3094 309e ",
      "30ac-30c2:2 30c5-30c9:2 30d0-30d1 30d3-30d4 30d6-30d7 30d9-30da 30dc-30dd 30f4 30f7-30fa ",
      "30fe ac00-d7a3 f900-fa0d fa10 fa12 fa15-fa1e fa20 fa22 fa25-fa26 fa2a-fa6d fa70-fad9 fb1d ",
      "fb1f fb2a-fb36 fb38-fb3c fb3e fb40-fb41 fb43-fb44 fb46-fb4e 1109a 1109c 110ab 1112e-1112f ",
      "1134b-1134c 114bb-114bc 114be 115ba-115bb 11938 1d15e-1d164 1d1bb-1d1c0 ",
      "2f800-2fa1d;COM,COMPAT a8 af b4-b5 b8 132-133 13f-140 149 17f 1c4-1cc 1f1-1f3 2d8-2dd 37a ",
      "384 3d0-3d2 3d5-3d6 3f0-3f2 3f4-3f5 3f9 587 675-678 e33 eb3 edc-edd f77 f79 1e9a 1fbd ",
      "1fbf-1fc0 1ffe 2002-2006 2008-200a 2017 2024-2026 2033-2034 2036-2037 203c 203e 2047-2049 ",
      "2057 205f 20a8 2100-2101 2103 2105-2107 2109 2116 2121 2135-2138 213b 2160-217f 222c-222d ",
      "222f-2230 2474-24b5 2a0c 2a74-2a76 2e9f 2ef3 2f00-2fd5 3036 3038-303a 309b-309c 3131-318e ",
      "3200-321e 3220-3243 32c0-32cb 3358-3370 33e0-33fe fb00-fb06 fb13-fb17 fb4f fe49-fe4f ",
      "1f100-1f10a 1f110-1f12a 1f240-1f248;ENC,CIRCLE 2460-2473 24b6-24ea 3244-3247 3251-327e ",
      "3280-32bf 32d0-32fe 1f12b-1f12e 1f250-1f251;FIN,FINAL fb51 fb53-fb83:4 fb85-fb8f:2 ",
      "fb93-fb9f:4 fba1 fba5 fba7-fbaf:4 fbb1 fbd4 fbd8-fbdc:2 fbdf-fbe5:2 fbeb-fbf7:2 fbfa fbfd ",
      "fc64-fc96 fd11-fd2c fd3c fd51 fd58 fd5a-fd5b fd5e-fd5f fd62 fd64 fd66-fd67 fd69-fd6a fd6c ",
      "fd6e-fd6f fd71 fd74-fd76 fd78-fd7c fd7e-fd82 fd84-fd85 fd87 fd8b fd96-fd97 fd99-fd9c ",
      "fd9e-fdb3 fdb6-fdb7 fdb9 fdbb-fdc2 fdc6-fdc7 fe82-fe8a:2 fe8e fe90 fe94 fe96-feaa:4 ",
      "feac-feb2:2 feb6-feee:4 fef0 fef2 fef6-fefc:2;FONT 2102 210a-2113 2115 2119-211d 2124 ",
      "2128 212c-212d 212f-2131 2133-2134 2139 213c-2140 2145-2149 fb20-fb29 1d400-1d454 ",
      "1d456-1d49c 1d49e-1d49f 1d4a2 1d4a5-1d4a6 1d4a9-1d4ac 1d4ae-1d4b9 1d4bb 1d4bd-1d4c3 ",
      "1d4c5-1d505 1d507-1d50a 1d50d-1d514 1d516-1d51c 1d51e-1d539 1d53b-1d53e 1d540-1d544 1d546 ",
      "1d54a-1d550 1d552-1d6a5 1d6a8-1d7cb 1d7ce-1d7ff 1ee00-1ee03 1ee05-1ee1f 1ee21-1ee22 1ee24 ",
      "1ee27 1ee29-1ee32 1ee34-1ee37 1ee39 1ee3b 1ee42 1ee47-1ee4b:2 1ee4d-1ee4f 1ee51-1ee52 ",
      "1ee54 1ee57-1ee5f:2 1ee61-1ee62 1ee64 1ee67-1ee6a 1ee6c-1ee72 1ee74-1ee77 1ee79-1ee7c ",
      "1ee7e 1ee80-1ee89 1ee8b-1ee9b 1eea1-1eea3 1eea5-1eea9 1eeab-1eebb ",
      "1fbf0-1fbf9;FRA,FRACTION bc-be 2150-215f 2189;INIT,INITIAL fb54-fb80:4 fb90-fb9c:4 fba2 ",
      "fba8 fbac fbd5 fbe6 fbe8 fbf8-fbfe:3 fc97-fcde fd2d-fd33 fd50 fd52-fd57 fd59 fd5c-fd5d ",
      "fd60-fd61 fd63 fd65-fd6b:3 fd6d fd70 fd72-fd73 fd77-fd83:6 fd86 fd88-fd8a fd8c-fd8f ",
      "fd92-fd95 fd98 fd9d fdb4-fdb5 fdb8 fdba fdc3-fdc5 fe8b-fe97:6 fe9b-fea7:4 feb3-feeb:4 ",
      "fef3;ISO,ISOLATED fb50 fb52-fb82:4 fb84-fb8e:2 fb92-fb9e:4 fba0 fba4 fba6-fbae:4 fbb0 ",
      "fbd3 fbd7-fbdb:2 fbdd-fbde fbe0-fbe4:2 fbea-fbf6:2 fbf9 fbfc fc00-fc63 fcf5-fd10 fd3d ",
      "fdf0-fdfc fe70-fe7e:2 fe80-fe81 fe83-fe89:2 fe8d fe8f fe93 fe95-fea9:4 feab-feb1:2 ",
      "feb5-feed:4 feef fef1 fef5-fefb:2;MED,MEDIAL fb55-fb81:4 fb91-fb9d:4 fba3 fba9 fbad fbd6 ",
      "fbe7 fbe9 fbff fcdf-fcf4 fd34-fd3b fe71 fe77-fe7f:2 fe8c-fe98:6 fe9c-fea8:4 feb4-feec:4 ",
      "fef4;NAR,NARROW ff61-ffbe ffc2-ffc7 ffca-ffcf ffd2-ffd7 ffda-ffdc ffe8-ffee;NB,NOBREAK a0 ",
      "f0c 2007 2011 202f;SML,SMALL fe50-fe52 fe54-fe66 fe68-fe6b;SQR,SQUARE 3250 32cc-32cf ",
      "32ff-3357 3371-33df 33ff 1f130-1f14f 1f190 1f200-1f202 1f210-1f23b;SUB 1d62-1d6a ",
      "2080-208e 2090-209c 2c7c 1e051-1e06a;SUP,SUPER aa b2-b3 b9-ba 2b0-2b8 2e0-2e4 10fc ",
      "1d2c-1d2e 1d30-1d3a 1d3c-1d4d 1d4f-1d61 1d78 1d9b-1dbf 2070-2071 2074-207f 2120 2122 2c7d ",
      "2d6f 3192-319f a69c-a69d a770 a7f2-a7f4 a7f8-a7f9 ab5c-ab5f ab69 10781-10785 10787-107b0 ",
      "107b2-107ba 1e030-1e050 1e06b-1e06d 1f16a-1f16c;VERT,VERTICAL 309f 30ff fe10-fe19 ",
      "fe30-fe44 fe47-fe48;WIDE 3000 ff01-ff60 ffe0-ffe6"]

/-- The parts of Hangul syllables. A syllable that is not in the first series of syllables has
three parts. -/
def hangulTable : String :=
  String.join
    ["L,LEADINGJAMO 1100-115f a960-a97c;LV,LVSYLLABLE ac00-d788:1c;LVT,LVTSYLLABLE ",
      "ac00-d7a3;T,TRAILINGJAMO 11a8-11ff d7cb-d7fb;V,VOWELJAMO 1160-11a7 d7b0-d7c6"]

end RuleGrammar.Unicode
