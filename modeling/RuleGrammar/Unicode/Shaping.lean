/-! How letters join, and where the signs of Indic scripts stand. -/

namespace RuleGrammar.Unicode

/-- The groups of letters that join alike. -/
def joiningGroupTable : String :=
  String.join
    ["AFRICANFEH 8bb;AFRICANNOON 8bd;AFRICANQAF 8bc 8c4;AIN 639-63a 6a0 6fc 75d-75f 8b3 ",
      "8c3;ALAPH 710;ALEF 622-623 625 627 671-673 675 773-774 870-882;BEH 628 62a-62b 66e ",
      "679-680 750-756 8a0-8a1 8b6-8b8 8be-8c0;BETH 712 72d;BURUSHASKIYEHBARREE 77a-77b;DAL ",
      "62f-630 688-690 6ee 759-75a 8ae;DALATHRISH 715-716 72a 72f;E 725;FARSIYEH 63d-63f 6cc 6ce ",
      "775-776;FE 74f;FEH 641 6a1-6a6 760-761 8a4;FINALSEMKATH 724;GAF 63b-63c 6a9 6ab 6af-6b4 ",
      "762-764 88d 8b0 8c2 8c8;GAMAL 713-714 72e;HAH 62c-62e 681-687 6bf 757-758 76e-76f 772 77c ",
      "88a 8a2 8c1 8c5-8c6;HANIFIROHINGYAKINNAYA 10d19 10d1e 10d20 10d23;HANIFIROHINGYAPA 10d02 ",
      "10d09 10d1c;HE 717;HEH 647;HEHGOAL 6c1-6c2;HETH 71a;KAF 643 6ac-6ae 77f 8b4;KAPH ",
      "71f;KHAPH 74e;KNOTTEDHEH 6be 6ff;LAM 644 6b5-6b8 76a 8a6 8c7;LAMADH 720;MALAYALAMBHA ",
      "866;MALAYALAMJA 861;MALAYALAMLLA 868;MALAYALAMLLLA 869;MALAYALAMNGA 860;MALAYALAMNNA ",
      "864;MALAYALAMNNNA 865;MALAYALAMNYA 862;MALAYALAMRA 867;MALAYALAMSSA 86a;MALAYALAMTTA ",
      "863;MANICHAEANALEPH 10ac0;MANICHAEANAYIN 10ad9-10ada;MANICHAEANBETH ",
      "10ac1-10ac2;MANICHAEANDALETH 10ac5;MANICHAEANDHAMEDH 10ad4;MANICHAEANFIVE ",
      "10aec;MANICHAEANGIMEL 10ac3-10ac4;MANICHAEANHETH 10acd;MANICHAEANHUNDRED ",
      "10aef;MANICHAEANKAPH 10ad0-10ad2;MANICHAEANLAMEDH 10ad3;MANICHAEANMEM 10ad6;MANICHAEANNUN ",
      "10ad7;MANICHAEANONE 10aeb;MANICHAEANPE 10adb-10adc;MANICHAEANQOPH ",
      "10ade-10ae0;MANICHAEANRESH 10ae1;MANICHAEANSADHE 10add;MANICHAEANSAMEKH ",
      "10ad8;MANICHAEANTAW 10ae4;MANICHAEANTEN 10aed;MANICHAEANTETH 10ace;MANICHAEANTHAMEDH ",
      "10ad5;MANICHAEANTWENTY 10aee;MANICHAEANWAW 10ac7;MANICHAEANYODH 10acf;MANICHAEANZAYIN ",
      "10ac9-10aca;MEEM 645 765-766 8a7;MIM 721;NOON 646 6b9-6bc 767-769 889;NUN 722;NYA 6bd;PE ",
      "726;QAF 642 66f 6a7-6a8 8a5 8b5;QAPH 729;REH 631-632 691-699 6ef 75b 76b-76c 771 8aa 8b2 ",
      "8b9;REVERSEDPE 727;ROHINGYAYEH 8ac;SAD 635-636 69d-69e 6fb 8af;SADHE 728;SEEN 633-634 ",
      "69a-69c 6fa 75c 76d 770 77d-77e;SEMKATH 723;SHIN 72b;STRAIGHTWAW 8b1;SWASHKAF ",
      "6aa;SYRIACWAW 718;TAH 637-638 69f 88b-88c 8a3;TAW 72c;TEHMARBUTA 629 6c0 ",
      "6d5;TEHMARBUTAGOAL,HAMZAONHEHGOAL 6c3;TETH 71b-71c;THINYEH 886;VERTICALTAIL 88e;WAW 624 ",
      "648 676-677 6c4-6cb 6cf 778-779 8ab;YEH 626 649-64a 678 6d0-6d1 777 8a8-8a9 8ba;YEHBARREE ",
      "6d2-6d3;YEHWITHTAIL 6cd;YUDH 71d;YUDHHE 71e;ZAIN 719;ZHAIN 74d;KASHMIRIYEH 620"]

/-- The ways of joining. -/
def joiningTypeTable : String :=
  String.join
    ["C,JOINCAUSING 640 7fa 883-885 180a 200d;D,DUALJOINING 620 626 628 62a-62e 633-63f 641-647 ",
      "649-64a 66e-66f 678-687 69a-6bf 6c1-6c2 6cc 6ce 6d0-6d1 6fa-6fc 6ff 712-714 71a-71d ",
      "71f-727 729 72b 72d-72e 74e-758 75c-76a 76d-770 772 775-777 77a-77f 7ca-7ea 841-845 848 ",
      "84a-853 855 860 862-865 868 886 889-88d 8a0-8a9 8af-8b0 8b3-8b8 8ba-8c8 1807 1820-1878 ",
      "1887-18a8 18aa a840-a871 10ac0-10ac4 10ad3-10ad6 10ad8-10adc 10ade-10ae0 10aeb-10aee ",
      "10b80 10b82 10b86-10b88 10b8a-10b8b 10b8d 10b90 10bad-10bae 10d01-10d21 10d23 10f30-10f32 ",
      "10f34-10f44 10f51-10f53 10f70-10f73 10f76-10f81 10fb0 10fb2-10fb3 10fb8 10fbb-10fbc ",
      "10fbe-10fbf 10fc1 10fc4 10fca 1e900-1e943;L,LEFTJOINING a872 10acd 10ad7 10d00 ",
      "10fcb;R,RIGHTJOINING 622-625 627 629 62f-632 648 671-673 675-677 688-699 6c0 6c3-6cb 6cd ",
      "6cf 6d2-6d3 6d5 6ee-6ef 710 715-719 71e 728-72c:2 72f 74d 759-75b 76b-76c 771 773-774 ",
      "778-779 840 846-847 849 854 856-858 867 869-86a 870-882 88e 8aa-8ac 8ae 8b1-8b2 8b9 10ac5 ",
      "10ac7 10ac9-10aca 10ace-10ad2 10add 10ae1 10ae4 10aef 10b81 10b83-10b85 10b89 10b8c ",
      "10b8e-10b8f 10b91 10ba9-10bac 10d22 10f33 10f54 10f74-10f75 10fb4-10fb6 10fb9-10fba 10fbd ",
      "10fc2-10fc3 10fc9;T,TRANSPARENT ad 300-36f 483-489 591-5bd 5bf 5c1-5c2 5c4-5c5 5c7 ",
      "610-61a 61c 64b-65f 670 6d6-6dc 6df-6e4 6e7-6e8 6ea-6ed 70f 711 730-74a 7a6-7b0 7eb-7f3 ",
      "7fd 816-819 81b-823 825-827 829-82d 859-85b 898-89f 8ca-8e1 8e3-902 93a 93c 941-948 94d ",
      "951-957 962-963 981 9bc 9c1-9c4 9cd 9e2-9e3 9fe a01-a02 a3c a41-a42 a47-a48 a4b-a4d a51 ",
      "a70-a71 a75 a81-a82 abc ac1-ac5 ac7-ac8 acd ae2-ae3 afa-aff b01 b3c b3f b41-b44 b4d ",
      "b55-b56 b62-b63 b82 bc0 bcd c00 c04 c3c c3e-c40 c46-c48 c4a-c4d c55-c56 c62-c63 c81 cbc ",
      "cbf cc6 ccc-ccd ce2-ce3 d00-d01 d3b-d3c d41-d44 d4d d62-d63 d81 dca dd2-dd4 dd6 e31 ",
      "e34-e3a e47-e4e eb1 eb4-ebc ec8-ece f18-f19 f35-f39:2 f71-f7e f80-f84 f86-f87 f8d-f97 ",
      "f99-fbc fc6 102d-1030 1032-1037 1039-103a 103d-103e 1058-1059 105e-1060 1071-1074 1082 ",
      "1085-1086 108d 109d 135d-135f 1712-1714 1732-1733 1752-1753 1772-1773 17b4-17b5 17b7-17bd ",
      "17c6 17c9-17d3 17dd 180b-180d 180f 1885-1886 18a9 1920-1922 1927-1928 1932 1939-193b ",
      "1a17-1a18 1a1b 1a56 1a58-1a5e 1a60 1a62 1a65-1a6c 1a73-1a7c 1a7f 1ab0-1ace 1b00-1b03 1b34 ",
      "1b36-1b3a 1b3c 1b42 1b6b-1b73 1b80-1b81 1ba2-1ba5 1ba8-1ba9 1bab-1bad 1be6 1be8-1be9 1bed ",
      "1bef-1bf1 1c2c-1c33 1c36-1c37 1cd0-1cd2 1cd4-1ce0 1ce2-1ce8 1ced 1cf4 1cf8-1cf9 1dc0-1dff ",
      "200b 200e-200f 202a-202e 2060-2064 206a-206f 20d0-20f0 2cef-2cf1 2d7f 2de0-2dff 302a-302d ",
      "3099-309a a66f-a672 a674-a67d a69e-a69f a6f0-a6f1 a802 a806 a80b a825-a826 a82c a8c4-a8c5 ",
      "a8e0-a8f1 a8ff a926-a92d a947-a951 a980-a982 a9b3 a9b6-a9b9 a9bc-a9bd a9e5 aa29-aa2e ",
      "aa31-aa32 aa35-aa36 aa43 aa4c aa7c aab0 aab2-aab4 aab7-aab8 aabe-aabf aac1 aaec-aaed aaf6 ",
      "abe5 abe8 abed fb1e fe00-fe0f fe20-fe2f feff fff9-fffb 101fd 102e0 10376-1037a ",
      "10a01-10a03 10a05-10a06 10a0c-10a0f 10a38-10a3a 10a3f 10ae5-10ae6 10d24-10d27 10eab-10eac ",
      "10efd-10eff 10f46-10f50 10f82-10f85 11001 11038-11046 11070 11073-11074 1107f-11081 ",
      "110b3-110b6 110b9-110ba 110c2 11100-11102 11127-1112b 1112d-11134 11173 11180-11181 ",
      "111b6-111be 111c9-111cc 111cf 1122f-11231 11234 11236-11237 1123e 11241 112df 112e3-112ea ",
      "11300-11301 1133b-1133c 11340 11366-1136c 11370-11374 11438-1143f 11442-11444 11446 1145e ",
      "114b3-114b8 114ba 114bf-114c0 114c2-114c3 115b2-115b5 115bc-115bd 115bf-115c0 115dc-115dd ",
      "11633-1163a 1163d 1163f-11640 116ab 116ad 116b0-116b5 116b7 1171d-1171f 11722-11725 ",
      "11727-1172b 1182f-11837 11839-1183a 1193b-1193c 1193e 11943 119d4-119d7 119da-119db 119e0 ",
      "11a01-11a0a 11a33-11a38 11a3b-11a3e 11a47 11a51-11a56 11a59-11a5b 11a8a-11a96 11a98-11a99 ",
      "11c30-11c36 11c38-11c3d 11c3f 11c92-11ca7 11caa-11cb0 11cb2-11cb3 11cb5-11cb6 11d31-11d36 ",
      "11d3a 11d3c-11d3d 11d3f-11d45 11d47 11d90-11d91 11d95 11d97 11ef3-11ef4 11f00-11f01 ",
      "11f36-11f3a 11f40 11f42 13430-13440 13447-13455 16af0-16af4 16b30-16b36 16f4f 16f8f-16f92 ",
      "16fe4 1bc9d-1bc9e 1bca0-1bca3 1cf00-1cf2d 1cf30-1cf46 1d167-1d169 1d173-1d182 1d185-1d18b ",
      "1d1aa-1d1ad 1d242-1d244 1da00-1da36 1da3b-1da6c 1da75 1da84 1da9b-1da9f 1daa1-1daaf ",
      "1e000-1e006 1e008-1e018 1e01b-1e021 1e023-1e024 1e026-1e02a 1e08f 1e130-1e136 1e2ae ",
      "1e2ec-1e2ef 1e4ec-1e4ef 1e8d0-1e8d6 1e944-1e94b e0001 e0020-e007f e0100-e01ef"]

/-- The places of Indic signs. -/
def indicPositionTable : String :=
  String.join
    ["BOTTOM 93c 941-944 94d 952 956-957 962-963 9bc 9c1-9c4 9cd 9e2-9e3 a3c a41-a42 a4d a51 ",
      "a75 abc ac1-ac4 acd ae2-ae3 b3c b41-b44 b4d b62-b63 c3c c56 c62-c63 cbc ce2-ce3 d43-d44 ",
      "d62-d63 dd4 dd6 e38-e3a eb8-eba ebc f18-f19 f35 f37 f71 f74-f75 f84 f8d-f97 f99-fbc fc6 ",
      "102f-1030 1037 103d-103e 1058-1059 105e-1060 1082 108d 1713-1714 1733-1773:20 17bb-17bd ",
      "1922 1932 1939 193b 1a18 1a56 1a5b-1a5e 1a69-1a6a 1a6c 1a7f 1b38-1b3a 1b6c 1ba2-1ba3 1ba5 ",
      "1bac-1bad 1c2c 1c37 1cd5-1cd9 1cdc-1cdf 1ced a825 a82c a8c4 a92b-a92d a947-a949 a94b-a94e ",
      "a9b8-a9b9 a9bd aa2d aa32 aa35-aa36 aab4 aaec abe8 abed 10a02-10a03 10a0c-10a0e ",
      "10a39-10a3a 1103c-11041 110b3-110b4 110b9-110ba 110c2 1112a-1112b 11131-11132 11173 ",
      "111b6-111bb 111c9-111ca 111cc 1122f 11241 112e3-112e4 112e9-112ea 1133b-1133c 11438-1143d ",
      "11442 11446 114b3-114b8 114c2-114c3 115b2-115b5 115bf-115c0 115dc-115dd 11633-11638 1163f ",
      "116b0-116b1 116b7 1171d 11724-11725 11728 1182f-11832 11839-1183a 11943 119d4-119d7 119e0 ",
      "11a02-11a03 11a0a 11a33-11a34 11a3b-11a3e 11a52-11a53 11a59-11a5b 11a8a-11a95 11c32-11c36 ",
      "11c3f 11c92-11ca7 11caa-11cb0 11cb2 11d36 11d42 11d44 11d47 11ef4 ",
      "11f38-11f3a;BOTTOMANDLEFT a9bf;BOTTOMANDRIGHT 1b3b a9be a9c0 11942;LEFT 93f 94e 9bf ",
      "9c7-9c8 a3f abf b47 bc6-bc8 d46-d48 dd9 ddb f3f 1031 1084 17c1-17c3 1a19 1a55 1a6e-1a72 ",
      "1b3e-1b3f 1ba6 1c27-1c28 1c34-1c35 a9ba-a9bb aa2f-aa30 aa34 aaeb aaee 110b1 1112c 111b4 ",
      "111ce 112e1 11347-11348 11436 114b1 114b9 115b0 115b8 116ae 11726 1182d 11935 11937 119d2 ",
      "119e4 11cb1 11ef5 11f3e-11f3f;LEFTANDRIGHT 9cb-9cc b4b bca-bcc d4a-d4c ddc dde 17c0 ",
      "17c4-17c5 1b40-1b41 1134b-1134c 114bc 114be 115ba 11938;OVERSTRUCK 1cd4 1ce2-1ce8 10a01 ",
      "10a06;RIGHT 903 93b 93e 940 949-94c 94f 982-983 9be 9c0 9d7 a03 a3e a40 a83 abe ac0 ",
      "acb-acc b02-b03 b3e b40 bbe-bbf bc1-bc2 bd7 c01-c03 c41-c44 c82-c83 cbe cc1-cc4 cd5-cd6 ",
      "cf3 d02-d03 d3e-d42 d57 d82-d83 dcf-dd1 dd8 ddf df2-df3 e30 e32-e33 e45 eb0 eb2-eb3 f3e ",
      "f7f 102b-102c 1038 103b 1056-1057 1062-1064 1067-106d 1083 1087-108c 108f 109a-109c 1715 ",
      "1734 17b6 17c7-17c8 1923-1924 1929-192b 1930-1931 1933-1938 19b0-19b4 19b8-19b9 19bb-19c0 ",
      "19c8-19c9 1a1a 1a57 1a61 1a63-1a64 1a6d 1b04 1b35 1b44 1b82 1ba1 1ba7 1baa 1be7 1bea-1bec ",
      "1bee 1bf2-1bf3 1c24-1c26 1c2a-1c2b 1ce1 1cf7 a823-a824 a827 a880-a881 a8b4-a8c3 a952-a953 ",
      "a983 a9b4-a9b5 aa33 aa4d aa7b aa7d aab1 aaba aabd aaef aaf5 abe3-abe4 abe6-abe7 abe9-abea ",
      "abec 11000 11002 11082 110b0 110b2 110b7-110b8 11145-11146 11182 111b3 111b5 111c0 ",
      "1122c-1122e 11235 112e0 112e2 11302-11303 1133e-1133f 11341-11344 1134d 11357 11362-11363 ",
      "11435 11437 11440-11441 11445 114b0 114b2 114bd 114c1 115af 115b1 115be 11630-11632 ",
      "1163b-1163c 1163e 116ac 116af 116b6 11720-11721 1182c 1182e 11838 11930-11934 1193d 11940 ",
      "119d1 119d3 119dc-119df 11a39 11a57-11a58 11a97 11c2f 11c3e 11ca9 11cb4 11d46 11d8a-11d8e ",
      "11d93-11d94 11d96 11ef6 11f03 11f34-11f35 11f41;TOP 900-902 93a 945-948 951 955 981 9fe ",
      "a01-a02 a47-a48 a4b-a4c a70-a71 a81-a82 ac5 ac7-ac8 afa-aff b01 b3f b55-b56 b82 bc0 bcd ",
      "c00 c04 c3e-c40 c46-c47 c4a-c4d c55 c81 cbf cc6 ccc-ccd d00-d01 d3b-d3c d4d-d4e d81 dca ",
      "dd2-dd3 e31 e34-e37 e47-e4e eb1 eb4-eb7 ebb ec8-ece f39 f72 f7a-f7e f80 f82-f83 f86-f87 ",
      "102d-102e 1032-1036 103a 1071-1074 1085-1086 109d 1712-1772:20 17b7-17ba 17c6 17c9-17d1 ",
      "17d3 17dd 1920-1921 1927-1928 193a 1a17 1a1b 1a58-1a5a 1a62 1a65-1a68 1a6b 1a73-1a7c ",
      "1b00-1b03 1b34 1b36-1b37 1b42 1b6b 1b6d-1b73 1b80-1b81 1ba4 1ba8-1ba9 1be6 1be8-1be9 1bed ",
      "1bef-1bf1 1c2d-1c33 1c36 1cd0-1cd2 1cda-1cdb 1ce0 1cf4 1dfb 20f0 a802 a806 a80b a826 a8c5 ",
      "a8e0-a8f1 a8ff a926-a92a a94a a94f-a951 a980-a982 a9b3 a9b6-a9b7 a9bc a9e5 aa29-aa2c aa2e ",
      "aa31 aa43 aa4c aa7c aab0 aab2-aab3 aab7-aab8 aabe-aabf aac1 aaed abe5 10a05 10a0f 10a38 ",
      "11001 11038-1103b 11042-11046 11070 11073-11074 11080-11081 110b5-110b6 11100-11102 ",
      "11127-11129 1112d 11130 11134 11180-11181 111bc-111be 111c2-111c3 111cb 111cf 11230-11231 ",
      "11234 11236-11237 1123e 112df 112e5-112e8 11300-11301 11340 11366-1136c 11370-11374 ",
      "1143e-1143f 11443-11444 1145e 114ba 114bf-114c0 115bc-115bd 11639-1163a 1163d 11640 116ab ",
      "116ad 116b2-116b5 1171f 11722-11723 11727 11729-1172b 11833-11837 1193b-1193c 1193f 11941 ",
      "119da-119db 11a01 11a04-11a09 11a35-11a38 11a3a 11a51 11a54-11a56 11a84-11a89 11a96 11a98 ",
      "11c30-11c31 11c38-11c3d 11cb3 11cb5-11cb6 11d31-11d35 11d3a 11d3c-11d3d 11d3f-11d41 11d43 ",
      "11d90-11d91 11d95 11ef3 11f00-11f02 11f36-11f37 11f40;TOPANDBOTTOM c48 f73 f76-f79 f81 ",
      "1b3c 1112e-1112f;TOPANDBOTTOMANDLEFT 103c 1171e;TOPANDBOTTOMANDRIGHT 1b3d;TOPANDLEFT b48 ",
      "dda 17be 1c29 114bb 115b9;TOPANDLEFTANDRIGHT b4c ddd 17bf 115bb;TOPANDRIGHT ac9 b57 cc0 ",
      "cc7-cc8 cca-ccb 1925-1926 1b43 111bf 11232-11233;VISUALORDERLEFT e40-e44 ec0-ec4 ",
      "19b5-19b7 19ba aab5-aab6 aab9 aabb-aabc"]

/-- The parts that Indic signs play in a syllable. -/
def indicSyllableTable : String :=
  String.join
    ["AVAGRAHA 93d 9bd abd b3d c3d-d3d:80 f85 17dc 1bba 111c1 1133d 11447 114c4 119e1 11a9d ",
      "11c40;BINDU 900-902 981-982 9fc a01-a02 a70 a81-a82 b01-b02 b82 c00-c02 c04 c80-c82 cf3 ",
      "d00-d02 d04 d81-d82 e4d ecd f7e f82-f83 1036 17c6 1932 1a74 1b00-1b02 1b80 1c34-1c35 a80b ",
      "a873 a880 a8c5 a8f2-a8f3 a980-a981 10a0e 11000-11001 11080-11081 11100-11101 11180-11181 ",
      "111cf 11234 112df 11300-11302 1135e-1135f 11443-11444 1145f 114bf-114c0 115bc-115bd 1163d ",
      "116ab 11837 1193b-1193c 119de 11a35-11a38 11a96 11c3c-11c3d 11cb5-11cb6 11d40 11d95 ",
      "11f00-11f01;BRAHMIJOININGNUMBER 11052-11065;CANTILLATIONMARK 951-952 a51 afa afc ",
      "1cd0-1cd2 1cd4-1ce1 1cf4 1cf7-1cf9 20f0 a8e0-a8f1 1123e 11366-1136c 11370-11374;CONSONANT ",
      "915-939 958-95f 978-97f 995-9a8 9aa-9b0 9b2 9b6-9b9 9dc-9dd 9df 9f0-9f1 a15-a28 a2a-a30 ",
      "a32-a33 a35-a36 a38-a39 a59-a5c a5e a95-aa8 aaa-ab0 ab2-ab3 ab5-ab9 af9 b15-b28 b2a-b30 ",
      "b32-b33 b35-b39 b5c-b5d b5f b71 b95 b99-b9a b9c b9e-b9f ba3-ba4 ba8-baa bae-bb9 c15-c28 ",
      "c2a-c39 c58-c5a c95-ca8 caa-cb3 cb5-cb9 cde d15-d3a d9a-db1 db3-dbb dbd dc0-dc6 e01-e2e ",
      "e81-e82 e84 e86-e8a e8c-ea3 ea5 ea7-eae edc-edf f40-f47 f49-f6c 1000-1020 103f 1050-1051 ",
      "105a-105d 1061 1065-1066 106e-1070 1075-1081 108e 1703-1711 171f 1723-1731 1743-1751 ",
      "1763-176c 176e-1770 1780-17a2 1901-191e 1950-1962 1980-19ab 1a00-1a16 1a20-1a4c 1a53-1a54 ",
      "1b13-1b33 1b45-1b4c 1b8a-1ba0 1bae-1baf 1bbb-1bbd 1bc0-1be3 1c00-1c23 1c4d-1c4f a807-a80a ",
      "a80c-a822 a840-a85d a862-a865 a869-a870 a872 a892-a8b3 a90a-a921 a930-a946 a989-a98b ",
      "a98f-a9b2 a9e0-a9e4 a9e7-a9ef a9fa-a9fe aa06-aa28 aa60-aa6f aa71-aa73 aa7a aa7e-aaaf ",
      "aae2-aaea abc0-abcd abd0 abd2-abda 10a00 10a10-10a13 10a15-10a17 10a19-10a35 11013-11037 ",
      "11075 1108d-110af 11107-11126 11144 11147 11155-11172 11191-111b2 11208-11211 11213-1122b ",
      "1123f 11284-11286 11288 1128a-1128d 1128f-1129d 1129f-112a8 112ba-112de 11315-11328 ",
      "1132a-11330 11332-11333 11335-11339 1140e-11434 1148f-114af 1158e-115ae 1160e-1162f ",
      "1168a-116aa 116b8 11700-1171a 11740-11746 1180a-1182b 1190c-11913 11915-11916 11918-1192f ",
      "119ae-119d0 11a0b-11a32 11a5c-11a83 11c0e-11c2e 11c72-11c8f 11d0c-11d30 11d6c-11d89 ",
      "11ee0-11ef1 11f12-11f33;CONSONANTDEAD 9ce c5d cdd d54-d56 d7a-d7f ",
      "1cf2-1cf3;CONSONANTFINAL 1930-1931 1933-1939 19c1-19c7 1a58-1a59 1b03 1b81 1bbe-1bbf ",
      "1bf0-1bf1 1c2d-1c33 a94f-a952 a982 aa40-aa4d abdb-abe2 11a8a-11a95;CONSONANTHEADLETTER ",
      "f88-f8c;CONSONANTINITIALPOSTFIXED 1a5a;CONSONANTKILLER e4c 17cd;CONSONANTMEDIAL a75 ",
      "ebc-ebd 103b-103e 105e-1060 1082 1a55-1a56 a8b4 a9bd-a9bf aa33-aa36 1171d-1171f 11940 ",
      "11942 11a3b-11a3e 11d47;CONSONANTPLACEHOLDER 2d a0 d7 980 a72-a73 104b 104e 1900 1cfa ",
      "2010-2014 25cc aa74-aa76 11a3f 11a45 11ef2;CONSONANTPRECEDINGREPHA d4e 11941 11d46 ",
      "11f02;CONSONANTPREFIXED 111c2-111c3 1193f 11a3a 11a84-11a89;CONSONANTSUBJOINED f8d-f97 ",
      "f99-fbc 1929-192b 1a57 1a5b-1a5e 1ba1-1ba3 1bac-1bad 1c24-1c25 a867-a868 a871 11c92-11ca7 ",
      "11ca9-11caf;CONSONANTSUCCEEDINGREPHA 17cc;CONSONANTWITHSTACKER cf1-cf2 1cf5-1cf6 ",
      "11003-11004 11460-11461;GEMINATIONMARK a71 afb 11237 11a98;INVISIBLESTACKER 1039 17d2 ",
      "1a60 1bab aaf6 10a3f 11133 1193e 11a47 11a99 11d45 11d97 11f42;JOINER ",
      "200d;MODIFYINGLETTER b83;NONJOINER 200c;NUKTA 93c-abc:80 afd-aff b3c c3c cbc f39 1b34 ",
      "1be6 1c37 a9b3 10a38-10a3a 110ba 11173 111ca 11236 112e9 1133b-1133c 11446 114c3 115c0 ",
      "116b7 1183a 11943 11d42;NUMBER 30-39 966-96f 9e6-9ef a66-a6f ae6-aef b66-b6f be6-bef ",
      "c66-c6f ce6-cef d66-d6f de6-def e50-e59 ed0-ed9 f20-f33 1040-1049 1090-1099 17e0-17e9 ",
      "1946-194f 19d0-19da 1a80-1a89 1a90-1a99 1b50-1b59 1bb0-1bb9 1c40-1c49 a8d0-a8d9 a900-a909 ",
      "a9d0-a9d9 a9f0-a9f9 aa50-aa59 abf0-abf9 10a40-10a48 11066-1106f 11136-1113f 111d0-111d9 ",
      "111e1-111f4 112f0-112f9 11450-11459 114d0-114d9 11650-11659 116c0-116c9 11730-1173b ",
      "11950-11959 11c50-11c6c 11d50-11d59 11da0-11da9 11f50-11f59;NUMBERJOINER 1107f;PUREKILLER ",
      "d3b-d3c e3a e4e eba f84 103a 1714-1715 1734 17d1 1a7a 1baa 1bf2-1bf3 a82c a953 abed 11070 ",
      "11134 112ea 1172b 1193d 11a34 11d44 11f41;REGISTERSHIFTER 17c9-17ca;SYLLABLEMODIFIER ",
      "b2-b3 9fe ece f35 f37 fc6 17cb 17ce-17d0 17d3 17dd 193b 1a7b-1a7c 1a7f 1c36 1dfb 2074 ",
      "2082-2084 111c9 1145e 11a33;TONELETTER 1970-1974 aac0 aac2;TONEMARK e48-e4b ec8-ecb 1037 ",
      "1063-1064 1069-106d 1087-108d 108f 109a-109b 19c8-19c9 1a75-1a79 a92b-a92d aa7b-aa7d aabf ",
      "aac1 abec;VIRAMA 94d-d4d:80 dca 1b44 a806 a8c4 a9c0 11046 110b9 111c0 11235 1134d 11442 ",
      "114c2 115bf 1163f 116b6 11839 119e0 11c3f;VISARGA 903-b03:80 c03-d83:80 f7f 1038 17c7 ",
      "1b04 1b82 a881 a983 aaf5 10a0f 11002-11182:80 11303 11445 114c1 115be 1163e 116ac 11838 ",
      "119df 11a39 11a97 11c3e 11d41 11d96 11f03;VOWEL 1963-196d a85e-a861 a866 a922-a92a ",
      "11150-11154;VOWELDEPENDENT 93a-93b 93e-94c 94e-94f 955-957 962-963 9be-9c4 9c7-9c8 ",
      "9cb-9cc 9d7 9e2-9e3 a3e-a42 a47-a48 a4b-a4c abe-ac5 ac7-ac9 acb-acc ae2-ae3 b3e-b44 ",
      "b47-b48 b4b-b4c b55-b57 b62-b63 bbe-bc2 bc6-bc8 bca-bcc bd7 c3e-c44 c46-c48 c4a-c4c ",
      "c55-c56 c62-c63 cbe-cc4 cc6-cc8 cca-ccc cd5-cd6 ce2-ce3 d3e-d44 d46-d48 d4a-d4c d57 ",
      "d62-d63 dcf-dd4 dd6 dd8-ddf df2-df3 e30-e39 e40-e45 e47 eb0-eb9 ebb ec0-ec4 f71-f7d ",
      "f80-f81 102b-1035 1056-1059 1062 1067-1068 1071-1074 1083-1086 109c-109d 1712-1713 ",
      "1732-1733 1752-1753 1772-1773 17b6-17c5 17c8 1920-1928 193a 19b0-19c0 1a17-1a1b 1a61-1a73 ",
      "1b35-1b43 1ba4-1ba9 1be7-1bef 1c26-1c2c a802 a823-a827 a8b5-a8c3 a8ff a947-a94e a9b4-a9bc ",
      "a9e5 aa29-aa32 aab0-aabe aaeb-aaef abe3-abea 10a01-10a03 10a05-10a06 10a0c-10a0d ",
      "11038-11045 11073-11074 110b0-110b8 110c2 11127-11132 11145-11146 111b3-111bf 111cb-111cc ",
      "111ce 1122c-11233 11241 112e0-112e8 1133e-11344 11347-11348 1134b-1134c 11357 11362-11363 ",
      "11435-11441 114b0-114be 115af-115b5 115b8-115bb 115dc-115dd 11630-1163c 11640 116ad-116b5 ",
      "11720-1172a 1182c-11836 11930-11935 11937-11938 119d1-119d7 119da-119dd 119e4 11a01-11a0a ",
      "11a51-11a5b 11c2f-11c36 11c38-11c3b 11cb0-11cb4 11d31-11d36 11d3a 11d3c-11d3d 11d3f 11d43 ",
      "11d8a-11d8e 11d90-11d91 11d93-11d94 11ef3-11ef6 11f34-11f3a 11f3e-11f40;VOWELINDEPENDENT ",
      "904-914 960-961 972-977 985-98c 98f-990 993-994 9e0-9e1 a05-a0a a0f-a10 a13-a14 a85-a8d ",
      "a8f-a91 a93-a94 ae0-ae1 b05-b0c b0f-b10 b13-b14 b60-b61 b85-b8a b8e-b90 b92-b94 c05-c0c ",
      "c0e-c10 c12-c14 c60-c61 c85-c8c c8e-c90 c92-c94 ce0-ce1 d05-d0c d0e-d10 d12-d14 d5f-d61 ",
      "d85-d96 1021-102a 1052-1055 1700-1702 1720-1722 1740-1742 1760-1762 17a3-17b3 1a4d-1a52 ",
      "1b05-1b12 1b83-1b89 1be4-1be5 a800-a801 a803-a805 a882-a891 a8fe a984-a988 a98c-a98e ",
      "aa00-aa05 aae0-aae1 abce-abcf abd1 11005-11012 11071-11072 11083-1108c 11103-11106 ",
      "11183-11190 11200-11207 11240 11280-11283 112b0-112b9 11305-1130c 1130f-11310 11313-11314 ",
      "11360-11361 11400-1140d 11481-1148e 11580-1158d 115d8-115db 11600-1160d 11680-11689 ",
      "11800-11809 11900-11906 11909 119a0-119a7 119aa-119ad 11a00 11a50 11c00-11c08 11c0a-11c0d ",
      "11d00-11d06 11d08-11d09 11d0b 11d60-11d65 11d67-11d68 11d6a-11d6b ",
      "11f04-11f10;REORDERINGKILLER"]

end RuleGrammar.Unicode
