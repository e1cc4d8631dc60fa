/-! Code points that stand for numbers. -/

namespace RuleGrammar.Unicode

/-- The kinds of number. -/
def numericTypeTable : String :=
  String.join
    ["DE,DECIMAL 30-39 660-669 6f0-6f9 7c0-7c9 966-96f 9e6-9ef a66-a6f ae6-aef b66-b6f be6-bef ",
      "c66-c6f ce6-cef d66-d6f de6-def e50-e59 ed0-ed9 f20-f29 1040-1049 1090-1099 17e0-17e9 ",
      "1810-1819 1946-194f 19d0-19d9 1a80-1a89 1a90-1a99 1b50-1b59 1bb0-1bb9 1c40-1c49 1c50-1c59 ",
      "a620-a629 a8d0-a8d9 a900-a909 a9d0-a9d9 a9f0-a9f9 aa50-aa59 abf0-abf9 ff10-ff19 ",
      "104a0-104a9 10d30-10d39 11066-1106f 110f0-110f9 11136-1113f 111d0-111d9 112f0-112f9 ",
      "11450-11459 114d0-114d9 11650-11659 116c0-116c9 11730-11739 118e0-118e9 11950-11959 ",
      "11c50-11c59 11d50-11d59 11da0-11da9 11f50-11f59 16a60-16a69 16ac0-16ac9 16b50-16b59 ",
      "1d7ce-1d7ff 1e140-1e149 1e2f0-1e2f9 1e4f0-1e4f9 1e950-1e959 1fbf0-1fbf9;DI,DIGIT b2-b3 b9 ",
      "1369-1371 19da 2070 2074-2079 2080-2089 2460-2468 2474-247c 2488-2490 24ea 24f5-24fd 24ff ",
      "2776-277e 2780-2788 278a-2792 10a40-10a43 10e60-10e68 11052-1105a 1f100-1f10a;NU,NUMERIC ",
      "bc-be 9f4-9f9 b72-b77 bf0-bf2 c78-c7e d58-d5e d70-d78 f2a-f33 1372-137c 16ee-16f0 ",
      "17f0-17f9 2150-2182 2185-2189 2469-2473 247d-2487 2491-249b 24eb-24f4 24fe 277f-2793:a ",
      "2cfd 3007 3021-3029 3038-303a 3192-3195 3220-3229 3248-324f 3251-325f 3280-3289 32b1-32bf ",
      "3405 3483 382a 3b4d 4e00 4e03 4e07 4e09 4e5d 4e8c 4e94 4e96 4ebf-4ec0 4edf 4ee8 4f0d 4f70 ",
      "5104 5146 5169-516d:2 5341 5343-5345 534c 53c1-53c4 56db 58f1 58f9 5e7a 5efe-5eff ",
      "5f0c-5f0e 5f10 62fe 634c 67d2 6f06 7396 767e 8086 842c 8cae 8cb3 8d30 9621 9646 964c 9678 ",
      "96f6 a6e6-a6ef a830-a835 f96b f973 f978 f9b2 f9d1 f9d3 f9fd 10107-10133 10140-10178 ",
      "1018a-1018b 102e1-102fb 10320-10323 10341 1034a 103d1-103d5 10858-1085f 10879-1087f ",
      "108a7-108af 108fb-108ff 10916-1091b 109bc-109bd 109c0-109cf 109d2-109ff 10a44-10a48 ",
      "10a7d-10a7e 10a9d-10a9f 10aeb-10aef 10b58-10b5f 10b78-10b7f 10ba9-10baf 10cfa-10cff ",
      "10e69-10e7e 10f1d-10f26 10f51-10f54 10fc5-10fcb 1105b-11065 111e1-111f4 1173a-1173b ",
      "118ea-118f2 11c5a-11c6c 11fc0-11fd4 12400-1246e 16b5b-16b61 16e80-16e96 1d2c0-1d2d3 ",
      "1d2e0-1d2f3 1d360-1d378 1e8c7-1e8cf 1ec71-1ecab 1ecad-1ecaf 1ecb1-1ecb4 1ed01-1ed2d ",
      "1ed2f-1ed3d 1f10b-1f10c 20001 20064 200e2 20121 2092a 20983 2098c 2099c 20aea 20afd 20b19 ",
      "22390 22998 23b1b 2626d 2f890"]

/-- The numbers. -/
def numericValueTable : String :=
  String.join
    ["-1/2 f33;0 30-39 660-669 6f0-6f9 7c0-7c9 966-96f 9e6-9ef a66-a6f ae6-aef b66-b6f be6-bf0 ",
      "c66-c6f c78-c7b ce6-cef d66-d70 de6-def e50-e59 ed0-ed9 f20-f29 1040-1049 1090-1099 ",
      "17e0-17e9 17f0-17f9 1810-1819 1946-194f 19d0-19d9 1a80-1a89 1a90-1a99 1b50-1b59 1bb0-1bb9 ",
      "1c40-1c49 1c50-1c59 2070 2080-2089 2189 24ea 24ff 3007 96f6 a620-a629 a6ef a8d0-a8d9 ",
      "a900-a909 a9d0-a9d9 a9f0-a9f9 aa50-aa59 abf0-abf9 f9b2 ff10-ff19 1018a 104a0-104a9 ",
      "10d30-10d39 11066-1106f 110f0-110f9 11136-1113f 111d0-111d9 112f0-112f9 11450-11459 ",
      "114d0-114d9 11650-11659 116c0-116c9 11730-1173a 118e0-118ea 11950-11959 11c50-11c59 ",
      "11d50-11d59 11da0-11da9 11f50-11f59 16a60-16a69 16ac0-16ac9 16b50-16b59 16e80-16e93 ",
      "1d2c0-1d2d3 1d2e0-1d2f3 1d7ce-1d7ff 1e140-1e149 1e2f0-1e2f9 1e4f0-1e4f9 1e950-1e959 ",
      "1f100-1f10c 1fbf0-1fbf9;1 b9 c7c-c7e 1369-1372 19da 215f-216b 2170-217b 2460-249b ",
      "24f5-24fe 2776-2793 3021-3029 3192-3195 3220-3229 3280-3289 4e00 58f1 58f9 5e7a 5f0c-5f0e ",
      "a6e6-a6ee 10107-10110 10142 10158-1015b 102e1-102ea 10320 103d1-103d2 10858-1085a ",
      "10879-1087d 108a7-108aa 108fb 10916 109c0-109c9 10a40-10a43 10a7d 10a9d 10aeb 10b58-10b5b ",
      "10b78-10b7b 10ba9-10bac 10cfa 10e60-10e69 10f1d-10f21 10f51 10fc5-10fc8 11052-1105b ",
      "111e1-111ea 11c5a-11c63 12415-12422 1242c-1242e 12434-12436 1244f-12452 12458-12459 ",
      "16e94-16e96 1d360-1d369 1d372-1d377 1e8c7-1e8cf 1ec71-1ec7a 1eca3-1ecab 1ecb1-1ecb2 ",
      "1ed01-1ed0a 2092a;1/10 d5c 2152 11fcb;1/12 109f6;1/16 9f4 b75 d76 a833 11fc9-11fca;1/160 ",
      "d58 11fc1;1/2 bd b73 d74 f2a 2cfd a831 10141 10175-10176 109bd 109fb 10a48 10e7b 10f26 ",
      "11fd1-11fd2 12464 1ecae 1ed3c;1/20 d5b 11fc8;1/3 2153 109f9 10e7d 1245a 1245d 12465;1/32 ",
      "11fc5;1/320 11fc0 11fd4;1/4 bc 9f7 b72 d73 a830 10140 1018b 109f8 10e7c 11fd0 12460 ",
      "12462-12463 1ecad;1/40 d59 11fc4;1/5 d5e 2155 11fcf;1/6 2159 109f7 12461 1ed3d;1/64 ",
      "11fc3;1/7 2150;1/8 9f5 b76 d77 215b a834 11fcc 1245f;1/80 11fc2;1/9 2151;10 3038 3248 ",
      "4ec0 5341 62fe f973 f9fd 10149-10157:7 10160-10164 10322 103d3 1085b 1087e 108ad 108fd ",
      "10917 10a44 10a9e 10aed 10b5c 10b7c 10bad 10cfc 10f22 10f52 10fc9 16b5b;100 bf1 d71 137b ",
      "216d 217d 4f70 767e 964c 10119 1014b 10152 1016a 102f3 103d5 1085d 108af 108ff 10919 ",
      "109d2 10a46 10aef 10b5e 10b7e 10baf 10cfe 10e72 10f25 10f54 10fcb 11064 111f3 11c6c 16b5c ",
      "1ec83 1ed13;1000 bf2 d72 216f 217f-2180 4edf 5343 9621 10122 1014d 10154 10171 1085e ",
      "109db 10a47 10b5f 10b7f 10cff 11065 111f4 1ec8c 1ed1c;10000 137c 2182 4e07 842c 1012b ",
      "10155 1085f 109e4 16b5d 1ec95 1ecb3 1ed25 1ed3b;100000 2188 109ed 1ec9e 1eca0 ",
      "1ecb4;1000000 16b5e;10000000 1eca1;100000000 4ebf 5104 16b5f;10000000000 ",
      "16b60;1000000000000 5146 16b61;11 24eb-24f4;11/12 109bc;11/2 f2f;12;13;13/2 ",
      "f30;14;15;15/2 f31;16 9f9;17 16ee-16f0;17/2 f32;18;19;2 b2-b3 3483 4e8c 5169 5f10 8cae ",
      "8cb3 8d30 f978 1015c-1015e 1091a-1091b 12400-12407 12423-12424 1244a-1244e 12456-12457 ",
      "1ed2f-1ed37 22390;2/3 2154 10177 109fd 10e7e 1245b 1245e 12466;2/5 2156;20 1373 3039 3249 ",
      "5344 5eff 10111 102eb 103d4 1085c 1087f 108ae 108fe 10918 109ca 10a45 10a9f 10aee 10b5d ",
      "10b7d 10bae 10e6a 10f23 10f53 10fca 1105c 111eb 1173b 118eb 11c64 1d36a 1ec7b 1ed0b;200 ",
      "1011a 102f4 109d3 10e73 1ec84 1ed14;2000 10123 109dc 1ec8d 1ed1d 1ed3a;20000 1012c 109e5 ",
      "1ec96 1ed26;200000 109ee 1ec9f;20000000 1eca2;21 3251-325f;216000 ",
      "12432;22;23;24;25;26;27;28;29;3 4e09 4ee8 53c1-53c4 f96b 12408-1240e 12425-1242b ",
      "1242f-12431 12437-1243c 20afd 20b19 22998 23b1b;3/16 9f6 b77 d78 a835 11fce;3/2 f2b;3/20 ",
      "d5d 11fcd;3/4 be 9f8 b74 d75 a832 10178 109fe 11fd3 1ecaf;3/5 2157;3/64 11fc7;3/8 ",
      "215c;3/80 d5a 11fc6;30 1374 303a 324a 5345 10112 10165 102ec 109cb 10e6b 10f24 1105d ",
      "111ec 118ec 11c65 1d36b 1ec7c 1ed0c 20983;300 1011b 1016b 102f5 109d4 10e74 1ec85 ",
      "1ed15;3000 10124 109dd 1ec8e 1ed1e;30000 1012d 109e6 1ec97 1ed27;300000 ",
      "109ef;31;32;33;34;35;36 32b1-32bf;37;38;39;4 2074-2079 4e96 56db 8086 108ab-108ac ",
      "1240f-12414 1243d-1243f 12453-12454 12469-1246e 20064 200e2 2626d;4/5 2158;40 1375 324b ",
      "534c 10113 102ed 109cc 10e6c 1105e 111ed 118ed 11c66 12467 1d36c 1ec7d 1ed0d 2098c ",
      "2099c;400 1011c 102f6 109d5 10e75 1ec86 1ed16 1ed38;4000 10125 109de 1ec8f 1ed1f;40000 ",
      "1012e 109e7 1ec98 1ed28;400000 109f0;41;42;43;432000 12433;44;45;46;47;48;49;5 3405 382a ",
      "4e94 4f0d 10143 10148 1014f 1015f 10173 10321 108fc 10aec 10cfb 12455 1d378 20121;5/12 ",
      "109fa;5/2 f2c;5/6 215a 109ff 1245c;5/8 215d;50 1376 216c 217c 2186 324c 10114 10144 1014a ",
      "10151 10166-10169 10174 102ee 10323 109cd 10a7e 10cfd 10e6d 1105f 111ee 118ee 11c67 12468 ",
      "1d36d 1ec7e 1ed0e;500 216e 217e 1011d 10145-10153:7 1016c-10170 102f7 109d6 10e76 1ec87 ",
      "1ed17;5000 2181 10126 10146 1014e 10172 109df 1ec90 1ed20;50000 2187 1012f 10147 10156 ",
      "109e8 1ec99 1ed29;500000 109f1;6 2185 516d 9646 9678 f9d1 f9d3 12440-12441 20aea;60 1377 ",
      "324d 10115 102ef 109ce 10e6e 11060 111ef 118ef 11c68 1d36e 1ec7f 1ed0f;600 1011e 102f8 ",
      "109d7 10e77 1ec88 1ed18 1ed39;6000 10127 109e0 1ec91 1ed21;60000 10130 109e9 1ec9a ",
      "1ed2a;600000 109f2;7 3b4d 4e03 67d2 6f06 12442-12444 20001;7/12 109fc;7/2 f2d;7/8 215e;70 ",
      "1378 324e 10116 102f0 109cf 10e6f 11061 111f0 118f0 11c69 1d36f 1ec80 1ed10;700 1011f ",
      "102f9 109d8 10e78 1ec89 1ed19;7000 10128 109e1 1ec92 1ed22;70000 10131 109ea 1ec9b ",
      "1ed2b;700000 109f3;8 516b 634c 12445-12446;80 1379 324f 10117 102f1 10e70 11062 111f1 ",
      "118f1 11c6a 1d370 1ec81 1ed11;800 10120 102fa 109d9 10e79 1ec8a 1ed1a;8000 10129 109e2 ",
      "1ec93 1ed23;80000 10132 109eb 1ec9c 1ed2c;800000 109f4;9 4e5d 5efe 7396 12447-12449 ",
      "2f890;9/2 f2e;90 137a 10118 102f2 10341 10e71 11063 111f2 118f2 11c6b 1d371 1ec82 ",
      "1ed12;900 10121 102fb 1034a 109da 10e7a 1ec8b 1ed1b;9000 1012a 109e3 1ec94 1ed24;90000 ",
      "10133 109ec 1ec9d 1ed2d;900000 109f5"]

end RuleGrammar.Unicode
