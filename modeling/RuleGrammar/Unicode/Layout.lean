/-! How code points are laid out: their direction, their width, and where lines break. -/

namespace RuleGrammar.Unicode

/-- The directions. -/
def directionTable : String :=
  String.join
    ["AL,ARABICLETTER 608 60b 60d 61b-64a 66d-66f 671-6d5 6e5-6e6 6ee-6ef 6fa-710 712-72f ",
      "74b-7a5 7b1-7bf 860-88f 892-897 8a0-8c9 fb50-fd3d fd50-fdce fdf0-fdfc fe70-fefe ",
      "10d00-10d23 10d28-10d2f 10d3a-10d3f 10ec0-10efc 10f30-10f45 10f51-10f6f 1ec70-1ecbf ",
      "1ed00-1ed4f 1ee00-1eeef 1eef2-1eeff;AN,ARABICNUMBER 600-605 660-669 66b-66c 6dd 890-891 ",
      "8e2 10d30-10d39 10e60-10e7e;B,PARAGRAPHSEPARATOR a d 1c-1e 85 2029;BN,BOUNDARYNEUTRAL 0-8 ",
      "e-1b 7f-84 86-9f ad 180e 200b-200d 2060-2065 206a-206f fdd0-fdef feff fff0-fff8 fffe-ffff ",
      "1bca0-1bca3 1d173-1d17a 1fffe-1ffff 2fffe-2ffff 3fffe-3ffff 4fffe-4ffff 5fffe-5ffff ",
      "6fffe-6ffff 7fffe-7ffff 8fffe-8ffff 9fffe-9ffff afffe-affff bfffe-bffff cfffe-cffff ",
      "dfffe-e00ff e01f0-e0fff efffe-effff ffffe-fffff 10fffe-10ffff;CS,COMMONSEPARATOR 2c 2e-2f ",
      "3a a0 60c 202f 2044 fe50 fe52 fe55 ff0c ff0e-ff0f ff1a;EN,EUROPEANNUMBER 30-39 b2-b3 b9 ",
      "6f0-6f9 2070 2074-2079 2080-2089 2488-249b ff10-ff19 102e1-102fb 1d7ce-1d7ff 1f100-1f10a ",
      "1fbf0-1fbf9;ES,EUROPEANSEPARATOR 2b 2d 207a-207b 208a-208b 2212 fb29 fe62-fe63 ff0b ",
      "ff0d;ET,EUROPEANTERMINATOR 23-25 a2-a5 b0-b1 58f 609-60a 66a 9f2-9f3 9fb af1 bf9 e3f 17db ",
      "2030-2034 20a0-20cf 212e 2213 a838-a839 fe5f fe69-fe6a ff03-ff05 ffe0-ffe1 ffe5-ffe6 ",
      "11fdd-11fe0 1e2ff;FSI,FIRSTSTRONGISOLATE 2068;LRE,LEFTTORIGHTEMBEDDING ",
      "202a;LRI,LEFTTORIGHTISOLATE 2066;LRO,LEFTTORIGHTOVERRIDE 202d;NSM,NONSPACINGMARK 300-36f ",
      "483-489 591-5bd 5bf 5c1-5c2 5c4-5c5 5c7 610-61a 64b-65f 670 6d6-6dc 6df-6e4 6e7-6e8 ",
      "6ea-6ed 711 730-74a 7a6-7b0 7eb-7f3 7fd 816-819 81b-823 825-827 829-82d 859-85b 898-89f ",
      "8ca-8e1 8e3-902 93a 93c 941-948 94d 951-957 962-963 981 9bc 9c1-9c4 9cd 9e2-9e3 9fe ",
      "a01-a02 a3c a41-a42 a47-a48 a4b-a4d a51 a70-a71 a75 a81-a82 abc ac1-ac5 ac7-ac8 acd ",
      "ae2-ae3 afa-aff b01 b3c b3f b41-b44 b4d b55-b56 b62-b63 b82 bc0 bcd c00 c04 c3c c3e-c40 ",
      "c46-c48 c4a-c4d c55-c56 c62-c63 c81 cbc ccc-ccd ce2-ce3 d00-d01 d3b-d3c d41-d44 d4d ",
      "d62-d63 d81 dca dd2-dd4 dd6 e31 e34-e3a e47-e4e eb1 eb4-ebc ec8-ece f18-f19 f35-f39:2 ",
      "f71-f7e f80-f84 f86-f87 f8d-f97 f99-fbc fc6 102d-1030 1032-1037 1039-103a 103d-103e ",
      "1058-1059 105e-1060 1071-1074 1082 1085-1086 108d 109d 135d-135f 1712-1714 1732-1733 ",
      "1752-1753 1772-1773 17b4-17b5 17b7-17bd 17c6 17c9-17d3 17dd 180b-180d 180f 1885-1886 18a9 ",
      "1920-1922 1927-1928 1932 1939-193b 1a17-1a18 1a1b 1a56 1a58-1a5e 1a60 1a62 1a65-1a6c ",
      "1a73-1a7c 1a7f 1ab0-1ace 1b00-1b03 1b34 1b36-1b3a 1b3c 1b42 1b6b-1b73 1b80-1b81 1ba2-1ba5 ",
      "1ba8-1ba9 1bab-1bad 1be6 1be8-1be9 1bed 1bef-1bf1 1c2c-1c33 1c36-1c37 1cd0-1cd2 1cd4-1ce0 ",
      "1ce2-1ce8 1ced 1cf4 1cf8-1cf9 1dc0-1dff 20d0-20f0 2cef-2cf1 2d7f 2de0-2dff 302a-302d ",
      "3099-309a a66f-a672 a674-a67d a69e-a69f a6f0-a6f1 a802 a806 a80b a825-a826 a82c a8c4-a8c5 ",
      "a8e0-a8f1 a8ff a926-a92d a947-a951 a980-a982 a9b3 a9b6-a9b9 a9bc-a9bd a9e5 aa29-aa2e ",
      "aa31-aa32 aa35-aa36 aa43 aa4c aa7c aab0 aab2-aab4 aab7-aab8 aabe-aabf aac1 aaec-aaed aaf6 ",
      "abe5 abe8 abed fb1e fe00-fe0f fe20-fe2f 101fd 102e0 10376-1037a 10a01-10a03 10a05-10a06 ",
      "10a0c-10a0f 10a38-10a3a 10a3f 10ae5-10ae6 10d24-10d27 10eab-10eac 10efd-10eff 10f46-10f50 ",
      "10f82-10f85 11001 11038-11046 11070 11073-11074 1107f-11081 110b3-110b6 110b9-110ba 110c2 ",
      "11100-11102 11127-1112b 1112d-11134 11173 11180-11181 111b6-111be 111c9-111cc 111cf ",
      "1122f-11231 11234 11236-11237 1123e 11241 112df 112e3-112ea 11300-11301 1133b-1133c 11340 ",
      "11366-1136c 11370-11374 11438-1143f 11442-11444 11446 1145e 114b3-114b8 114ba 114bf-114c0 ",
      "114c2-114c3 115b2-115b5 115bc-115bd 115bf-115c0 115dc-115dd 11633-1163a 1163d 1163f-11640 ",
      "116ab 116ad 116b0-116b5 116b7 1171d-1171f 11722-11725 11727-1172b 1182f-11837 11839-1183a ",
      "1193b-1193c 1193e 11943 119d4-119d7 119da-119db 119e0 11a01-11a06 11a09-11a0a 11a33-11a38 ",
      "11a3b-11a3e 11a47 11a51-11a56 11a59-11a5b 11a8a-11a96 11a98-11a99 11c30-11c36 11c38-11c3d ",
      "11c92-11ca7 11caa-11cb0 11cb2-11cb3 11cb5-11cb6 11d31-11d36 11d3a 11d3c-11d3d 11d3f-11d45 ",
      "11d47 11d90-11d91 11d95 11d97 11ef3-11ef4 11f00-11f01 11f36-11f3a 11f40 11f42 13440 ",
      "13447-13455 16af0-16af4 16b30-16b36 16f4f 16f8f-16f92 16fe4 1bc9d-1bc9e 1cf00-1cf2d ",
      "1cf30-1cf46 1d167-1d169 1d17b-1d182 1d185-1d18b 1d1aa-1d1ad 1d242-1d244 1da00-1da36 ",
      "1da3b-1da6c 1da75 1da84 1da9b-1da9f 1daa1-1daaf 1e000-1e006 1e008-1e018 1e01b-1e021 ",
      "1e023-1e024 1e026-1e02a 1e08f 1e130-1e136 1e2ae 1e2ec-1e2ef 1e4ec-1e4ef 1e8d0-1e8d6 ",
      "1e944-1e94a e0100-e01ef;ON,OTHERNEUTRAL 21-22 26-2a 3b-40 5b-60 7b-7e a1 a6-a9 ab-ac ",
      "ae-af b4 b6-b8 bb-bf d7 f7 2b9-2ba 2c2-2cf 2d2-2df 2e5-2ed 2ef-2ff 374-375 37e 384-385 ",
      "387 3f6 58a 58d-58e 606-607 60e-60f 6de 6e9 7f6-7f9 bf3-bf8 bfa c78-c7e f3a-f3d 1390-1399 ",
      "1400 169b-169c 17f0-17f9 1800-180a 1940 1944-1945 19de-19ff 1fbd 1fbf-1fc1 1fcd-1fcf ",
      "1fdd-1fdf 1fed-1fef 1ffd-1ffe 2010-2027 2035-2043 2045-205e 207c-207e 208c-208e 2100-2101 ",
      "2103-2106 2108-2109 2114 2116-2118 211e-2123 2125-2129:2 213a-213b 2140-2144 214a-214d ",
      "2150-215f 2189-218b 2190-2211 2214-2335 237b-2394 2396-2426 2440-244a 2460-2487 24ea-26ab ",
      "26ad-27ff 2900-2b73 2b76-2b95 2b97-2bff 2ce5-2cea 2cf9-2cff 2e00-2e5d 2e80-2e99 2e9b-2ef3 ",
      "2f00-2fd5 2ff0-2ffb 3001-3004 3008-3020 3030 3036-3037 303d-303f 309b-309c 30a0 30fb ",
      "31c0-31e3 321d-321e 3250-325f 327c-327e 32b1-32bf 32cc-32cf 3377-337a 33de-33df 33ff ",
      "4dc0-4dff a490-a4c6 a60d-a60f a673 a67e-a67f a700-a721 a788 a828-a82b a874-a877 ab6a-ab6b ",
      "fd3e-fd4f fdcf fdfd-fdff fe10-fe19 fe30-fe4f fe51 fe54 fe56-fe5e fe60-fe61 fe64-fe66 fe68 ",
      "fe6b ff01-ff02 ff06-ff0a ff1b-ff20 ff3b-ff40 ff5b-ff65 ffe2-ffe4 ffe8-ffee fff9-fffd ",
      "10101 10140-1018c 10190-1019c 101a0 1091f 10b39-10b3f 11052-11065 11660-1166c 11fd5-11fdc ",
      "11fe1-11ff1 16fe2 1d1e9-1d1ea 1d200-1d241 1d245 1d300-1d356 1d6db-1d7c3:3a 1eef0-1eef1 ",
      "1f000-1f02b 1f030-1f093 1f0a0-1f0ae 1f0b1-1f0bf 1f0c1-1f0cf 1f0d1-1f0f5 1f10b-1f10f 1f12f ",
      "1f16a-1f16f 1f1ad 1f260-1f265 1f300-1f6d7 1f6dc-1f6ec 1f6f0-1f6fc 1f700-1f776 1f77b-1f7d9 ",
      "1f7e0-1f7eb 1f7f0 1f800-1f80b 1f810-1f847 1f850-1f859 1f860-1f887 1f890-1f8ad 1f8b0-1f8b1 ",
      "1f900-1fa53 1fa60-1fa6d 1fa70-1fa7c 1fa80-1fa88 1fa90-1fabd 1fabf-1fac5 1face-1fadb ",
      "1fae0-1fae8 1faf0-1faf8 1fb00-1fb92 1fb94-1fbca;PDF,POPDIRECTIONALFORMAT ",
      "202c;PDI,POPDIRECTIONALISOLATE 2069;R,RIGHTTOLEFT 590 5be 5c0-5c6:3 5c8-5ff 7c0-7ea ",
      "7f4-7f5 7fa-7fc 7fe-815 81a 824 828 82e-858 85c-85f 200f fb1d fb1f-fb28 fb2a-fb4f ",
      "10800-1091e 10920-10a00 10a04 10a07-10a0b 10a10-10a37 10a3b-10a3e 10a40-10ae4 10ae7-10b38 ",
      "10b40-10cff 10d40-10e5f 10e7f-10eaa 10ead-10ebf 10f00-10f2f 10f70-10f81 10f86-10fff ",
      "1e800-1e8cf 1e8d7-1e943 1e94b-1ec6f 1ecc0-1ecff 1ed50-1edff ",
      "1ef00-1efff;RLE,RIGHTTOLEFTEMBEDDING 202b;RLI,RIGHTTOLEFTISOLATE ",
      "2067;RLO,RIGHTTOLEFTOVERRIDE 202e;S,SEGMENTSEPARATOR 9 b 1f;WS,WHITESPACE c 20 1680 ",
      "2000-200a 2028 205f 3000"]

/-- The widths. -/
def widthTable : String :=
  String.join
    ["A,AMBIGUOUS a1 a4 a7-a8 aa ad-ae b0-b4 b6-ba bc-bf c6 d0 d7-d8 de-e1 e6 e8-ea ec-ed f0 ",
      "f2-f3 f7-fa fc fe 101 111 113 11b 126-127 12b 131-133 138 13f-142 144 148-14b 14d 152-153 ",
      "166-167 16b 1ce-1dc:2 251 261 2c4 2c7 2c9-2cb 2cd 2d0 2d8-2db 2dd 2df 300-36f 391-3a1 ",
      "3a3-3a9 3b1-3c1 3c3-3c9 401 410-44f 451 2010 2013-2016 2018-2019 201c-201d 2020-2022 ",
      "2024-2027 2030 2032-2033 2035 203b 203e 2074 207f 2081-2084 20ac 2103 2105 2109 2113 2116 ",
      "2121-2122 2126 212b 2153-2154 215b-215e 2160-216b 2170-2179 2189 2190-2199 21b8-21b9 21d2 ",
      "21d4 21e7 2200 2202-2203 2207-2208 220b 220f 2211 2215 221a 221d-2220 2223 2225 2227-222c ",
      "222e 2234-2237 223c-223d 2248 224c 2252 2260-2261 2264-2267 226a-226b 226e-226f 2282-2283 ",
      "2286-2287 2295 2299 22a5 22bf 2312 2460-24e9 24eb-254b 2550-2573 2580-258f 2592-2595 ",
      "25a0-25a1 25a3-25a9 25b2-25b3 25b6-25b7 25bc-25bd 25c0-25c1 25c6-25c8 25cb 25ce-25d1 ",
      "25e2-25e5 25ef 2605-2606 2609 260e-260f 261c 261e 2640 2642 2660-2661 2663-2665 2667-266a ",
      "266c-266d 266f 269e-269f 26bf 26c6-26cd 26cf-26d3 26d5-26e1 26e3 26e8-26e9 26eb-26f1 26f4 ",
      "26f6-26f9 26fb-26fc 26fe-26ff 273d 2776-277f 2b56-2b59 3248-324f e000-f8ff fe00-fe0f fffd ",
      "1f100-1f10a 1f110-1f12d 1f130-1f169 1f170-1f18d 1f18f-1f190 1f19b-1f1ac e0100-e01ef ",
      "f0000-ffffd 100000-10fffd;F,FULLWIDTH 3000 ff01-ff60 ffe0-ffe6;H,HALFWIDTH 20a9 ff61-ffbe ",
      "ffc2-ffc7 ffca-ffcf ffd2-ffd7 ffda-ffdc ffe8-ffee;NA,NARROW 20-7e a2-a3 a5-a6 ac af ",
      "27e6-27ed 2985-2986;W,WIDE 1100-115f 231a-231b 2329-232a 23e9-23ec 23f0 23f3 25fd-25fe ",
      "2614-2615 2648-2653 267f 2693 26a1 26aa-26ab 26bd-26be 26c4-26c5 26ce 26d4 26ea 26f2-26f3 ",
      "26f5 26fa 26fd 2705 270a-270b 2728 274c 274e 2753-2755 2757 2795-2797 27b0 27bf 2b1b-2b1c ",
      "2b50 2b55 2e80-2e99 2e9b-2ef3 2f00-2fd5 2ff0-2ffb 3001-303e 3041-3096 3099-30ff 3105-312f ",
      "3131-318e 3190-31e3 31f0-321e 3220-3247 3250-4dbf 4e00-a48c a490-a4c6 a960-a97c ac00-d7a3 ",
      "f900-faff fe10-fe19 fe30-fe52 fe54-fe66 fe68-fe6b 16fe0-16fe4 16ff0-16ff1 17000-187f7 ",
      "18800-18cd5 18d00-18d08 1aff0-1aff3 1aff5-1affb 1affd-1affe 1b000-1b122 1b132 1b150-1b152 ",
      "1b155 1b164-1b167 1b170-1b2fb 1f004 1f0cf 1f18e 1f191-1f19a 1f200-1f202 1f210-1f23b ",
      "1f240-1f248 1f250-1f251 1f260-1f265 1f300-1f320 1f32d-1f335 1f337-1f37c 1f37e-1f393 ",
      "1f3a0-1f3ca 1f3cf-1f3d3 1f3e0-1f3f0 1f3f4 1f3f8-1f43e 1f440 1f442-1f4fc 1f4ff-1f53d ",
      "1f54b-1f54e 1f550-1f567 1f57a 1f595-1f596 1f5a4 1f5fb-1f64f 1f680-1f6c5 1f6cc 1f6d0-1f6d2 ",
      "1f6d5-1f6d7 1f6dc-1f6df 1f6eb-1f6ec 1f6f4-1f6fc 1f7e0-1f7eb 1f7f0 1f90c-1f93a 1f93c-1f945 ",
      "1f947-1f9ff 1fa70-1fa7c 1fa80-1fa88 1fa90-1fabd 1fabf-1fac5 1face-1fadb 1fae0-1fae8 ",
      "1faf0-1faf8 20000-2fffd 30000-3fffd"]

/-- The classes that decide where lines break. -/
def lineBreakTable : String :=
  String.join
    ["AI,AMBIGUOUS a7-a8 aa b2-b3 b6-ba bc-be d7 f7 2c7 2c9-2cb 2cd 2d0 2d8-2db 2dd 2015-2016 ",
      "2020-2021 203b 2074 207f 2081-2084 2105 2113 2121-2122 212b 2154-2155 215b 215e 2160-216b ",
      "2170-2179 2189 2190-2199 21d2 21d4 2200 2202-2203 2207-2208 220b 220f 2211 2215 221a ",
      "221d-2220 2223 2225 2227-222c 222e 2234-2237 223c-223d 2248 224c 2252 2260-2261 2264-2267 ",
      "226a-226b 226e-226f 2282-2283 2286-2287 2295 2299 22a5 22bf 2312 2460-24fe 2500-254b ",
      "2550-2574 2580-258f 2592-2595 25a0-25a1 25a3-25a9 25b2-25b3 25b6-25b7 25bc-25bd 25c0-25c1 ",
      "25c6-25c8 25cb 25ce-25d1 25e2-25e5 25ef 2605-2606 2609 260e-260f 2616-2617 2640 2642 ",
      "2660-2661 2663-2665 2667 2669-266a 266c-266d 266f 269e-269f 26c9-26cc 26d2 26d5-26d7 ",
      "26da-26db 26dd-26de 26e3 26e8-26e9 26eb-26f0 26f6 26fb-26fc 2757 2776-2793 2b55-2b59 ",
      "3248-324f fffd 1f100-1f10c 1f110-1f12d 1f130-1f169 1f170-1f1ac;AL,ALPHABETIC 23 26 2a ",
      "3c-3e 40-5a 5e-7a 7e a6-ac:3 ae-af b5 c0-d6 d8-f6 f8-2c6 2ce-2cf 2d1-2d7 2dc 2de 2e0-2ff ",
      "370-377 37a-37d 37f 384-38a 38c 38e-3a1 3a3-482 48a-52f 531-556 559-588 58d-58e 5c0 5c3 ",
      "5f3-5f4 600-608 60e-60f 620-64a 66d-66f 671-6d3 6d5 6dd-6de 6e5-6e6 6e9 6ee-6ef 6fa-70d ",
      "70f-710 712-72f 74d-7a5 7b1 7ca-7ea 7f4-7f7 7fa 800-815 81a 824 828 830-83e 840-858 85e ",
      "860-86a 870-88e 890-891 8a0-8c9 8e2 904-939 93d 950 958-961 970-980 985-98c 98f-990 ",
      "993-9a8 9aa-9b0 9b2 9b6-9b9 9bd 9ce 9dc-9dd 9df-9e1 9f0-9f1 9f4-9f8 9fa 9fc-9fd a05-a0a ",
      "a0f-a10 a13-a28 a2a-a30 a32-a33 a35-a36 a38-a39 a59-a5c a5e a72-a74 a76 a85-a8d a8f-a91 ",
      "a93-aa8 aaa-ab0 ab2-ab3 ab5-ab9 abd ad0 ae0-ae1 af0 af9 b05-b0c b0f-b10 b13-b28 b2a-b30 ",
      "b32-b33 b35-b39 b3d b5c-b5d b5f-b61 b70-b77 b83 b85-b8a b8e-b90 b92-b95 b99-b9a b9c ",
      "b9e-b9f ba3-ba4 ba8-baa bae-bb9 bd0 bf0-bf8 bfa c05-c0c c0e-c10 c12-c28 c2a-c39 c3d ",
      "c58-c5a c5d c60-c61 c78-c80 c85-c8c c8e-c90 c92-ca8 caa-cb3 cb5-cb9 cbd cdd-cde ce0-ce1 ",
      "cf1-cf2 d04-d0c d0e-d10 d12-d3a d3d d4e-d4f d54-d56 d58-d61 d70-d78 d7a-d7f d85-d96 ",
      "d9a-db1 db3-dbb dbd dc0-dc6 df4 e4f f00 f05 f13 f15-f17 f1a-f1f f2a-f33 f36 f38 f40-f47 ",
      "f49-f6c f88-f8c fc0-fc5 fc7-fcc fce-fcf fd4-fd8 104c-104f 10a0-10c5 10c7 10cd 10d0-10ff ",
      "1200-1248 124a-124d 1250-1256 1258 125a-125d 1260-1288 128a-128d 1290-12b0 12b2-12b5 ",
      "12b8-12be 12c0 12c2-12c5 12c8-12d6 12d8-1310 1312-1315 1318-135a 1360 1362-137c 1380-1399 ",
      "13a0-13f5 13f8-13fd 1401-167f 1681-169a 16a0-16ea 16ee-16f8 1700-1711 171f-1731 1740-1751 ",
      "1760-176c 176e-1770 17d9 17f0-17f9 1800-1801 1807 180a 1820-1878 1880-1884 1887-18a8 18aa ",
      "18b0-18f5 1900-191e 1940 19e0-1a16 1a1e-1a1f 1b05-1b33 1b45-1b4c 1b5c 1b61-1b6a 1b74-1b7c ",
      "1b83-1ba0 1bae-1baf 1bba-1be5 1bfc-1c23 1c4d-1c4f 1c5a-1c7d 1c80-1c88 1c90-1cba 1cbd-1cc7 ",
      "1cd3 1ce9-1cec 1cee-1cf3 1cf5-1cf6 1cfa 1d00-1dbf 1e00-1f15 1f18-1f1d 1f20-1f45 1f48-1f4d ",
      "1f50-1f57 1f59-1f5d:2 1f5f-1f7d 1f80-1fb4 1fb6-1fc4 1fc6-1fd3 1fd6-1fdb 1fdd-1fef ",
      "1ff2-1ff4 1ff6-1ffc 1ffe 2017 2022-2023 2038 203e-2043 204a-2055 205c 2061-2064 2070-2071 ",
      "2075-207c 2080 2085-208c 2090-209c 2100-2102 2104 2106-2108 210a-2112 2114-2115 2117-2120 ",
      "2123-212a 212c-2153 2156-215a 215c-215d 215f 216c-216f 217a-2188 218a-218b 219a-21d1 21d3 ",
      "21d5-21ff 2201 2204-2206 2209-220a 220c-220e 2210 2214 2216-2219 221b-221c 2221-2222 2224 ",
      "2226 222d 222f-2233 2238-223b 223e-2247 2249-224b 224d-2251 2253-225f 2262-2263 2268-2269 ",
      "226c-226d 2270-2281 2284-2285 2288-2294 2296-2298 229a-22a4 22a6-22be 22c0-22ee 22f0-2307 ",
      "230c-2311 2313-2319 231c-2328 232b-23ef 23f4-2426 2440-244a 24ff 254c-254f 2575-257f ",
      "2590-2591 2596-259f 25a2 25aa-25b1 25b4-25b5 25b8-25bb 25be-25bf 25c2-25c5 25c9-25ca ",
      "25cc-25cd 25d2-25e1 25e6-25ee 25f0-25ff 2604 2607-2608 260a-260d 2610-2613 2619 2620-2638 ",
      "263c-263f 2641 2643-265f 2662 2666 266b 266e 2670-267e 2680-269d 26a0-26bc 26ce 26e2 ",
      "26e4-26e7 2705-2707 270e-2756 2758-275a 2761 2765-2767 2794-27c4 27c7-27e5 27f0-2982 ",
      "2999-29d7 29dc-29fb 29fe-2b54 2b5a-2b73 2b76-2b95 2b97-2cee 2cf2-2cf3 2cfd 2d00-2d25 2d27 ",
      "2d2d 2d30-2d67 2d6f 2d80-2d96 2da0-2da6 2da8-2dae 2db0-2db6 2db8-2dbe 2dc0-2dc6 2dc8-2dce ",
      "2dd0-2dd6 2dd8-2dde 2e16 2e1a-2e1b 2e1e-2e1f 2e2f 2e32 2e35-2e39 2e3f 2e4b 2e4d 2e50-2e52 ",
      "4dc0-4dff a4d0-a4fd a500-a60c a610-a61f a62a-a62b a640-a66e a673 a67e-a69d a6a0-a6ef a6f2 ",
      "a700-a7ca a7d0-a7d1 a7d3 a7d5-a7d9 a7f2-a801 a803-a805 a807-a80a a80c-a822 a828-a82b ",
      "a830-a837 a839 a840-a873 a882-a8b3 a8f2-a8fb a8fd-a8fe a90a-a925 a930-a946 a95f a984-a9b2 ",
      "a9c1-a9c6 a9ca-a9cd a9cf a9de-a9df aa00-aa28 aa40-aa42 aa44-aa4b aa5c aae0-aaea aaf2-aaf4 ",
      "ab01-ab06 ab09-ab0e ab11-ab16 ab20-ab26 ab28-ab2e ab30-ab6b ab70-abe2 fb00-fb06 fb13-fb17 ",
      "fb29 fb50-fbc2 fbd3-fd3d fd40-fd8f fd92-fdc7 fdcf fdf0-fdfb fdfd-fdff fe70-fe74 fe76-fefc ",
      "ffe8-ffee 10000-1000b 1000d-10026 10028-1003a 1003c-1003d 1003f-1004d 10050-1005d ",
      "10080-100fa 10107-10133 10137-1018e 10190-1019c 101a0 101d0-101fc 10280-1029c 102a0-102d0 ",
      "102e1-102fb 10300-10323 1032d-1034a 10350-10375 10380-1039d 103a0-103c3 103c8-103cf ",
      "103d1-103d5 10400-1049d 104b0-104d3 104d8-104fb 10500-10527 10530-10563 1056f-1057a ",
      "1057c-1058a 1058c-10592 10594-10595 10597-105a1 105a3-105b1 105b3-105b9 105bb-105bc ",
      "10600-10736 10740-10755 10760-10767 10780-10785 10787-107b0 107b2-107ba 10800-10805 10808 ",
      "1080a-10835 10837-10838 1083c 1083f-10855 10858-1089e 108a7-108af 108e0-108f2 108f4-108f5 ",
      "108fb-1091b 10920-10939 1093f 10980-109b7 109bc-109cf 109d2-10a00 10a10-10a13 10a15-10a17 ",
      "10a19-10a35 10a40-10a48 10a58 10a60-10a9f 10ac0-10ae4 10aeb-10aef 10b00-10b35 10b40-10b55 ",
      "10b58-10b72 10b78-10b91 10b99-10b9c 10ba9-10baf 10c00-10c48 10c80-10cb2 10cc0-10cf2 ",
      "10cfa-10d23 10e60-10e7e 10e80-10ea9 10eb0-10eb1 10f00-10f27 10f30-10f45 10f51-10f59 ",
      "10f70-10f81 10f86-10f89 10fb0-10fcb 10fe0-10ff6 11003-11037 11049-1104d 11052-11065 ",
      "11071-11072 11075 11083-110af 110bb-110bd 110cd 110d0-110e8 11103-11126 11144 11147 ",
      "11150-11172 11174 11176 11183-111b2 111c1-111c4 111c7 111cd 111da 111dc 111e1-111f4 ",
      "11200-11211 11213-1122b 1123a 1123d 1123f-11240 11280-11286 11288 1128a-1128d 1128f-1129d ",
      "1129f-112a8 112b0-112de 11305-1130c 1130f-11310 11313-11328 1132a-11330 11332-11333 ",
      "11335-11339 1133d 11350 1135d-11361 11400-11434 11447-1144a 1144f 1145d 1145f-11461 ",
      "11480-114af 114c4-114c7 11580-115ae 115c6-115c8 115d8-115db 11600-1162f 11643-11644 ",
      "11680-116aa 116b8-116b9 11800-1182b 1183b 118a0-118df 118ea-118f2 118ff-11906 11909 ",
      "1190c-11913 11915-11916 11918-1192f 1193f 11941 119a0-119a7 119aa-119d0 119e1 119e3 11a00 ",
      "11a0b-11a32 11a3a-11a46:6 11a50 11a5c-11a89 11a9d 11ab0-11af8 11c00-11c08 11c0a-11c2e ",
      "11c40 11c5a-11c6c 11c72-11c8f 11d00-11d06 11d08-11d09 11d0b-11d30 11d46 11d60-11d65 ",
      "11d67-11d68 11d6a-11d89 11d98 11ee0-11ef2 11ef7-11ef8 11f02 11f04-11f10 11f12-11f33 11fb0 ",
      "11fc0-11fdc 11fe1-11ff1 12000-12399 12400-1246e 12480-12543 12f90-12ff2 13000-13257 ",
      "1325e-13281 13283-13285 1328a-13378 1337c-1342f 13441-13446 14400-145cd 145d0-14646 ",
      "16800-16a38 16a40-16a5e 16a70-16abe 16ad0-16aed 16b00-16b2f 16b3a-16b43 16b45 16b5b-16b61 ",
      "16b63-16b77 16b7d-16b8f 16e40-16e96 16e99-16e9a 16f00-16f4a 16f50 16f93-16f9f 18b00-18cd5 ",
      "1aff0-1aff3 1aff5-1affb 1affd-1affe 1bc00-1bc6a 1bc70-1bc7c 1bc80-1bc88 1bc90-1bc99 1bc9c ",
      "1cf50-1cfc3 1d000-1d0f5 1d100-1d126 1d129-1d164 1d16a-1d16c 1d183-1d184 1d18c-1d1a9 ",
      "1d1ae-1d1ea 1d200-1d241 1d245 1d2c0-1d2d3 1d2e0-1d2f3 1d300-1d356 1d360-1d378 1d400-1d454 ",
      "1d456-1d49c 1d49e-1d49f 1d4a2 1d4a5-1d4a6 1d4a9-1d4ac 1d4ae-1d4b9 1d4bb 1d4bd-1d4c3 ",
      "1d4c5-1d505 1d507-1d50a 1d50d-1d514 1d516-1d51c 1d51e-1d539 1d53b-1d53e 1d540-1d544 1d546 ",
      "1d54a-1d550 1d552-1d6a5 1d6a8-1d7cb 1d800-1d9ff 1da37-1da3a 1da6d-1da74 1da76-1da83 ",
      "1da85-1da86 1da8b 1df00-1df1e 1df25-1df2a 1e030-1e06d 1e100-1e12c 1e137-1e13d 1e14e-1e14f ",
      "1e290-1e2ad 1e2c0-1e2eb 1e4d0-1e4eb 1e7e0-1e7e6 1e7e8-1e7eb 1e7ed-1e7ee 1e7f0-1e7fe ",
      "1e800-1e8c4 1e8c7-1e8cf 1e900-1e943 1e94b 1ec71-1ecab 1ecad-1ecaf 1ecb1-1ecb4 1ed01-1ed3d ",
      "1ee00-1ee03 1ee05-1ee1f 1ee21-1ee22 1ee24 1ee27 1ee29-1ee32 1ee34-1ee37 1ee39 1ee3b 1ee42 ",
      "1ee47-1ee4b:2 1ee4d-1ee4f 1ee51-1ee52 1ee54 1ee57-1ee5f:2 1ee61-1ee62 1ee64 1ee67-1ee6a ",
      "1ee6c-1ee72 1ee74-1ee77 1ee79-1ee7c 1ee7e 1ee80-1ee89 1ee8b-1ee9b 1eea1-1eea3 1eea5-1eea9 ",
      "1eeab-1eebb 1eef0-1eef1 1f12e-1f12f 1f16a-1f16c 1f39c-1f39d 1f3b5-1f3b6 1f3bc ",
      "1f4a0-1f4a4:2 1f4af 1f4b1-1f4b2 1f500-1f506 1f517-1f524 1f532-1f549 1f5d4-1f5db ",
      "1f5f4-1f5f9 1f650-1f675 1f67c-1f67f 1f700-1f773 1f780-1f7d4 1f800-1f80b 1f810-1f847 ",
      "1f850-1f859 1f860-1f887 1f890-1f8ad 1f900-1f90b 1fa00-1fa53 1fb00-1fb92 ",
      "1fb94-1fbca;B2,BREAKBOTH 2014 2e3a-2e3b;BA,BREAKAFTER 9 7c ad 58a 5be 964-965 e5a-e5b f0b ",
      "f34 f7f f85 fbe-fbf fd2 104a-104b 1361 1400 1680 16eb-16ed 1735-1736 17d4-17d5 17d8 17da ",
      "1804-1805 1b5a-1b5b 1b5d-1b60 1b7d-1b7e 1c3b-1c3f 1c7e-1c7f 2000-2006 2008-200a 2012-2013 ",
      "2027 2056 2058-205b 205d-205f 2cfa-2cfc 2cff 2d70 2e0e-2e15 2e17 2e19 2e2a-2e2d 2e30-2e31 ",
      "2e33-2e34 2e3c-2e3e 2e40-2e41 2e43-2e4a 2e4c 2e4e-2e4f 2e5d 3000 a4fe-a4ff a60d a60f ",
      "a6f3-a6f7 a8ce-a8cf a92e-a92f a9c7-a9c9 aa5d-aa5f aaf0-aaf1 abeb 10100-10102 1039f 103d0 ",
      "10857 1091f 10a50-10a57 10af0-10af5 10b39-10b3f 10ead 11047-11048 110be-110c1 11140-11143 ",
      "111c5-111c6 111c8 111dd-111df 11238-11239 1123b-1123c 112a9 1144b-1144e 1145a-1145b ",
      "115c2-115c3 115c9-115d7 11641-11642 1173c-1173e 11944-11946 11a41-11a44 11a9a-11a9c ",
      "11aa1-11aa2 11c41-11c45 11f43-11f44 11fff 12470-12474 16a6e-16a6f 16af5 16b37-16b39 16b44 ",
      "16e97-16e98 1bc9f 1da87-1da8a;BB,BREAKBEFORE b4 2c8 2cc 2df c77 c84 f01-f04 f06-f07 ",
      "f09-f0a fd0-fd1 fd3 1806 1ffd a874-a875 a8fc 11175 111db 115c1 11660-1166c 119e2 11a3f ",
      "11a45 11a9e-11aa0 11b00-11b09 11c70;BK,MANDATORYBREAK b-c 2028-2029;CB,CONTINGENTBREAK ",
      "fffc;CJ,CONDITIONALJAPANESESTARTER 3041-3049:2 3063 3083-3087:2 308e 3095-3096 ",
      "30a1-30a9:2 30c3 30e3-30e7:2 30ee 30f5-30f6 30fc 31f0-31ff ff67-ff70 1b132 1b150-1b152 ",
      "1b155 1b164-1b167;CL,CLOSEPUNCTUATION 7d f3b f3d 169c 2046 207e 208e 2309 230b 232a ",
      "2769-2775:2 27c6 27e7-27ef:2 2984-2998:2 29d9 29db 29fd 2e23-2e29:2 2e56-2e5c:2 3001-3002 ",
      "3009-3011:2 3015-301b:2 301e-301f fd3e fe11-fe12 fe18 fe36-fe44:2 fe48 fe50 fe52 ",
      "fe5a-fe5e:2 ff09 ff0c ff0e ff3d ff5d ff60-ff61 ff63-ff64 1325b-1325d 13282 13287 13289 ",
      "1337a-1337b 13438 1343d 1343f 145cf;CM,COMBININGMARK 0-8 e-1f 7f-84 86-9f 300-34e 350-35b ",
      "363-36f 483-489 591-5bd 5bf 5c1-5c2 5c4-5c5 5c7 610-61a 61c 64b-65f 670 6d6-6dc 6df-6e4 ",
      "6e7-6e8 6ea-6ed 711 730-74a 7a6-7b0 7eb-7f3 7fd 816-819 81b-823 825-827 829-82d 859-85b ",
      "898-89f 8ca-8e1 8e3-903 93a-93c 93e-94f 951-957 962-963 981-983 9bc 9be-9c4 9c7-9c8 ",
      "9cb-9cd 9d7 9e2-9e3 9fe a01-a03 a3c a3e-a42 a47-a48 a4b-a4d a51 a70-a71 a75 a81-a83 abc ",
      "abe-ac5 ac7-ac9 acb-acd ae2-ae3 afa-aff b01-b03 b3c b3e-b44 b47-b48 b4b-b4d b55-b57 ",
      "b62-b63 b82 bbe-bc2 bc6-bc8 bca-bcd bd7 c00-c04 c3c c3e-c44 c46-c48 c4a-c4d c55-c56 ",
      "c62-c63 c81-c83 cbc cbe-cc4 cc6-cc8 cca-ccd cd5-cd6 ce2-ce3 cf3 d00-d03 d3b-d3c d3e-d44 ",
      "d46-d48 d4a-d4d d57 d62-d63 d81-d83 dca dcf-dd4 dd6 dd8-ddf df2-df3 f18-f19 f35-f39:2 ",
      "f3e-f3f f71-f7e f80-f84 f86-f87 f8d-f97 f99-fbc fc6 135d-135f 1712-1715 1732-1734 ",
      "1752-1753 1772-1773 180b-180d 180f 1885-1886 18a9 1920-192b 1930-193b 1a17-1a1b 1a7f ",
      "1ab0-1ace 1b00-1b04 1b34-1b44 1b6b-1b73 1b80-1b82 1ba1-1bad 1be6-1bf3 1c24-1c37 1cd0-1cd2 ",
      "1cd4-1ce8 1ced 1cf4 1cf7-1cf9 1dc0-1dcc 1dce-1dfb 1dfd-1dff 200c 200e-200f 202a-202e ",
      "2066-206f 20d0-20f0 2cef-2cf1 2d7f 2de0-2dff 302a-302f 3035 3099-309a a66f-a672 a674-a67d ",
      "a69e-a69f a6f0-a6f1 a802 a806 a80b a823-a827 a82c a880-a881 a8b4-a8c5 a8e0-a8f1 a8ff ",
      "a926-a92d a947-a953 a980-a983 a9b3-a9c0 aa29-aa36 aa43 aa4c-aa4d aaeb-aaef aaf5-aaf6 ",
      "abe3-abea abec-abed fb1e fe00-fe0f fe20-fe2f fff9-fffb 101fd 102e0 10376-1037a ",
      "10a01-10a03 10a05-10a06 10a0c-10a0f 10a38-10a3a 10a3f 10ae5-10ae6 10d24-10d27 10eab-10eac ",
      "10efd-10eff 10f46-10f50 10f82-10f85 11000-11002 11038-11046 11070 11073-11074 1107f-11082 ",
      "110b0-110ba 110c2 11100-11102 11127-11134 11145-11146 11173 11180-11182 111b3-111c0 ",
      "111c9-111cc 111ce-111cf 1122c-11237 1123e 11241 112df-112ea 11300-11303 1133b-1133c ",
      "1133e-11344 11347-11348 1134b-1134d 11357 11362-11363 11366-1136c 11370-11374 11435-11446 ",
      "1145e 114b0-114c3 115af-115b5 115b8-115c0 115dc-115dd 11630-11640 116ab-116b7 1182c-1183a ",
      "11930-11935 11937-11938 1193b-1193e 11940 11942-11943 119d1-119d7 119da-119e0 119e4 ",
      "11a01-11a0a 11a33-11a39 11a3b-11a3e 11a47 11a51-11a5b 11a8a-11a99 11c2f-11c36 11c38-11c3f ",
      "11c92-11ca7 11ca9-11cb6 11d31-11d36 11d3a 11d3c-11d3d 11d3f-11d45 11d47 11d8a-11d8e ",
      "11d90-11d91 11d93-11d97 11ef3-11ef6 11f00-11f01 11f03 11f34-11f3a 11f3e-11f42 13440 ",
      "13447-13455 16af0-16af4 16b30-16b36 16f4f 16f51-16f87 16f8f-16f92 16ff0-16ff1 1bc9d-1bc9e ",
      "1bca0-1bca3 1cf00-1cf2d 1cf30-1cf46 1d165-1d169 1d16d-1d182 1d185-1d18b 1d1aa-1d1ad ",
      "1d242-1d244 1da00-1da36 1da3b-1da6c 1da75 1da84 1da9b-1da9f 1daa1-1daaf 1e000-1e006 ",
      "1e008-1e018 1e01b-1e021 1e023-1e024 1e026-1e02a 1e08f 1e130-1e136 1e2ae 1e2ec-1e2ef ",
      "1e4ec-1e4ef 1e8d0-1e8d6 1e944-1e94a e0001 e0020-e007f e0100-e01ef;CP,CLOSEPARENTHESIS 29 ",
      "5d;CR,CARRIAGERETURN d;EB,EBASE 261d 26f9 270a-270d 1f385 1f3c2-1f3c4 1f3c7 1f3ca-1f3cc ",
      "1f442-1f443 1f446-1f450 1f466-1f478 1f47c 1f481-1f483 1f485-1f487 1f48f 1f491 1f4aa ",
      "1f574-1f575 1f57a 1f590 1f595-1f596 1f645-1f647 1f64b-1f64f 1f6a3 1f6b4-1f6b6 1f6c0 1f6cc ",
      "1f90c 1f90f 1f918-1f91f 1f926 1f930-1f939 1f93c-1f93e 1f977 1f9b5-1f9b6 1f9b8-1f9b9 1f9bb ",
      "1f9cd-1f9cf 1f9d1-1f9dd 1fac3-1fac5 1faf0-1faf8;EM,EMODIFIER 1f3fb-1f3ff;EX,EXCLAMATION ",
      "21 3f 5c6 61b 61d-61f 6d4 7f9 f0d-f11 f14 1802-1803 1808-1809 1944-1945 2762-2763 2cf9 ",
      "2cfe 2e2e 2e53-2e54 a60e a876-a877 fe15-fe16 fe56-fe57 ff01 ff1f 115c4-115c5 ",
      "11c71;GL,GLUE a0 34f 35c-362 f08 f0c f12 fd9-fda 180e 1dcd 1dfc 2007 2011 202f ",
      "13430-13436 13439-1343b 16fe4;H2 ac00-d788:1c;H3 ac00-d7a3;HL,HEBREWLETTER 5d0-5ea ",
      "5ef-5f2 fb1d fb1f-fb28 fb2a-fb36 fb38-fb3c fb3e fb40-fb41 fb43-fb44 fb46-fb4f;HY,HYPHEN ",
      "2d;ID,IDEOGRAPHIC 231a-231b 23f0-23f3 2600-2603 2614-2615 2618 261a-261c 261e-261f ",
      "2639-263b 2668 267f 26bd-26c8 26cd 26cf-26d1 26d3-26d4 26d8-26d9 26dc 26df-26e1 26ea ",
      "26f1-26f5 26f7-26f8 26fa 26fd-2704 2708-2709 2764 2e80-2e99 2e9b-2ef3 2f00-2fd5 2ff0-2ffb ",
      "3003-3004 3006-3007 3012-3013 3020-3029 3030-3034 3036-303a 303d-303f 3042-3048:2 ",
      "304a-3062 3064-3082 3084 3086 3088-308d 308f-3094 309f 30a2-30a8:2 30aa-30c2 30c4-30e2 ",
      "30e4 30e6 30e8-30ed 30ef-30f4 30f7-30fa 30ff 3105-312f 3131-318e 3190-31e3 3200-321e ",
      "3220-3247 3250-4dbf 4e00-a014 a016-a48c a490-a4c6 f900-faff fe30-fe34 fe45-fe46 fe49-fe4f ",
      "fe51 fe58 fe5f-fe66 fe68 fe6b ff02-ff03 ff06-ff07 ff0a-ff0b ff0d ff0f-ff19 ff1c-ff1e ",
      "ff20-ff3a ff3c ff3e-ff5a ff5c ff5e ff66 ff71-ff9d ffa0-ffbe ffc2-ffc7 ffca-ffcf ffd2-ffd7 ",
      "ffda-ffdc ffe2-ffe4 11f45-11f4f 17000-187f7 18800-18aff 18d00-18d08 1b000-1b122 ",
      "1b170-1b2fb 1f000-1f0ff 1f10d-1f10f 1f16d-1f16f 1f1ad-1f1e5 1f200-1f384 1f386-1f39b ",
      "1f39e-1f3b4 1f3b7-1f3bb 1f3bd-1f3c1 1f3c5-1f3c6 1f3c8-1f3c9 1f3cd-1f3fa 1f400-1f441 ",
      "1f444-1f445 1f451-1f465 1f479-1f47b 1f47d-1f480 1f484 1f488-1f48e 1f490 1f492-1f49f 1f4a1 ",
      "1f4a3 1f4a5-1f4a9 1f4ab-1f4ae 1f4b0 1f4b3-1f4ff 1f507-1f516 1f525-1f531 1f54a-1f573 ",
      "1f576-1f579 1f57b-1f58f 1f591-1f594 1f597-1f5d3 1f5dc-1f5f3 1f5fa-1f644 1f648-1f64a ",
      "1f680-1f6a2 1f6a4-1f6b3 1f6b7-1f6bf 1f6c1-1f6cb 1f6cd-1f6ff 1f774-1f77f 1f7d5-1f7ff ",
      "1f80c-1f80f 1f848-1f84f 1f85a-1f85f 1f888-1f88f 1f8ae-1f8ff 1f90d-1f90e 1f910-1f917 ",
      "1f920-1f925 1f927-1f92f 1f93a-1f93b 1f93f-1f976 1f978-1f9b4 1f9b7 1f9ba 1f9bc-1f9cc 1f9d0 ",
      "1f9de-1f9ff 1fa54-1fac2 1fac6-1faef 1faf9-1faff 1fc00-1fffd 20000-2fffd ",
      "30000-3fffd;IN,INSEPARABLE,INSEPERABLE 2024-2026 22ef fe19 10af6;IS,INFIXNUMERIC 2c 2e ",
      "3a-3b 37e 589 60c-60d 7f8 2044 fe10 fe13-fe14;JL 1100-115f a960-a97c;JT 11a8-11ff ",
      "d7cb-d7fb;JV 1160-11a7 d7b0-d7c6;LF,LINEFEED a;NL,NEXTLINE 85;NS,NONSTARTER 17d6 ",
      "203c-203d 2047-2049 3005 301c 303b-303c 309b-309e 30a0 30fb 30fd-30fe a015 fe54-fe55 ",
      "ff1a-ff1b ff65 ff9e-ff9f 16fe0-16fe3 1f679-1f67b;NU,NUMERIC 30-39 660-669 66b-66c 6f0-6f9 ",
      "7c0-7c9 966-96f 9e6-9ef a66-a6f ae6-aef b66-b6f be6-bef c66-c6f ce6-cef d66-d6f de6-def ",
      "e50-e59 ed0-ed9 f20-f29 1040-1049 1090-1099 17e0-17e9 1810-1819 1946-194f 19d0-19d9 ",
      "1a80-1a89 1a90-1a99 1b50-1b59 1bb0-1bb9 1c40-1c49 1c50-1c59 a620-a629 a8d0-a8d9 a900-a909 ",
      "a9d0-a9d9 a9f0-a9f9 aa50-aa59 abf0-abf9 104a0-104a9 10d30-10d39 11066-1106f 110f0-110f9 ",
      "11136-1113f 111d0-111d9 112f0-112f9 11450-11459 114d0-114d9 11650-11659 116c0-116c9 ",
      "11730-11739 118e0-118e9 11950-11959 11c50-11c59 11d50-11d59 11da0-11da9 11f50-11f59 ",
      "16a60-16a69 16ac0-16ac9 16b50-16b59 1d7ce-1d7ff 1e140-1e149 1e2f0-1e2f9 1e4f0-1e4f9 ",
      "1e950-1e959 1fbf0-1fbf9;OP,OPENPUNCTUATION 28 5b 7b a1 bf f3a f3c 169b 201a 201e 2045 ",
      "207d 208d 2308 230a 2329 2768-2774:2 27c5 27e6-27ee:2 2983-2997:2 29d8 29da 29fc 2e18 ",
      "2e22-2e28:2 2e42 2e55-2e5b:2 3008-3010:2 3014-301a:2 301d fd3f fe17 fe35-fe43:2 fe47 ",
      "fe59-fe5d:2 ff08 ff3b ff5b ff5f ff62 13258-1325a 13286 13288 13379 13437 1343c 1343e ",
      "145ce 1e95e-1e95f;PO,POSTFIXNUMERIC 25 a2 b0 609-60b 66a 9f2-9f3 9f9 d79 2030-2037 2057 ",
      "20a7 20b6 20bb 20be 20c0 2103 2109 a838 fdfc fe6a ff05 ffe0 11fdd-11fe0 1ecac ",
      "1ecb0;PR,PREFIXNUMERIC 24 2b 5c a3-a5 b1 58f 7fe-7ff 9fb af1 bf9 e3f 17db 20a0-20a6 ",
      "20a8-20b5 20b7-20ba 20bc-20bd 20bf 20c1-20cf 2116 2212-2213 fe69 ff04 ffe1 ffe5-ffe6 ",
      "1e2ff;QU,QUOTATION 22 27 ab bb 2018-2019 201b-201d 201f 2039-203a 275b-2760 2e00-2e0d ",
      "2e1c-2e1d 2e20-2e21 1f676-1f678;RI,REGIONALINDICATOR 1f1e6-1f1ff;SA,COMPLEXCONTEXT ",
      "e01-e3a e40-e4e e81-e82 e84 e86-e8a e8c-ea3 ea5 ea7-ebd ec0-ec4 ec6 ec8-ece edc-edf ",
      "1000-103f 1050-108f 109a-109f 1780-17d3 17d7 17dc-17dd 1950-196d 1970-1974 1980-19ab ",
      "19b0-19c9 19da 19de-19df 1a20-1a5e 1a60-1a7c 1aa0-1aad a9e0-a9ef a9fa-a9fe aa60-aac2 ",
      "aadb-aadf 11700-1171a 1171d-1172b 1173a-1173b 1173f-11746;SG,SURROGATE d800-dfff;SP,SPACE ",
      "20;SY,BREAKSYMBOLS 2f;WJ,WORDJOINER 2060 feff;ZW,ZWSPACE 200b;ZWJ 200d;AK,AKSARA;AP,AKSARA",
      "PREBASE;AS,AKSARASTART;VF,VIRAMAFINAL;VI,VIRAMA;HH,UNAMBIGUOUSHYPHEN 2010"]

end RuleGrammar.Unicode
