/-!
# Lowercase: data

Three tables of Unicode 17.0, as entries in hexadecimal. `lowerText` holds the lowercase
mapping of every character that has one: an entry `first,last,target` maps the
characters from `first` to `last` to `target` onwards, one to one, and an entry
`point,point,a.b` maps one character to the characters `a b`. `casedText` holds the
cased characters (those with an uppercase, lowercase or titlecase form of their own) and
`caseIgnorableText` the characters that case mapping looks through (marks, format
characters, modifier letters and symbols, and the apostrophes and dots inside words),
both as ranges `first,last`.
-/

namespace HttpCall.Case

/-- The lowercase mapping, in ascending order of code point. -/
def lowerText : String :=
"41,5a,61 c0,d6,e0 d8,de,f8 100,100,101 102,102,103 104,104,105 106,106,107 108,108,109
10a,10a,10b 10c,10c,10d 10e,10e,10f 110,110,111 112,112,113 114,114,115 116,116,117 118,118,119
11a,11a,11b 11c,11c,11d 11e,11e,11f 120,120,121 122,122,123 124,124,125 126,126,127 128,128,129
12a,12a,12b 12c,12c,12d 12e,12e,12f 130,130,69.307 132,132,133 134,134,135 136,136,137 139,139,13a
13b,13b,13c 13d,13d,13e 13f,13f,140 141,141,142 143,143,144 145,145,146 147,147,148 14a,14a,14b
14c,14c,14d 14e,14e,14f 150,150,151 152,152,153 154,154,155 156,156,157 158,158,159 15a,15a,15b
15c,15c,15d 15e,15e,15f 160,160,161 162,162,163 164,164,165 166,166,167 168,168,169 16a,16a,16b
16c,16c,16d 16e,16e,16f 170,170,171 172,172,173 174,174,175 176,176,177 178,178,ff 179,179,17a
17b,17b,17c 17d,17d,17e 181,181,253 182,182,183 184,184,185 186,186,254 187,187,188 189,18a,256
18b,18b,18c 18e,18e,1dd 18f,18f,259 190,190,25b 191,191,192 193,193,260 194,194,263 196,196,269
197,197,268 198,198,199 19c,19c,26f 19d,19d,272 19f,19f,275 1a0,1a0,1a1 1a2,1a2,1a3 1a4,1a4,1a5
1a6,1a6,280 1a7,1a7,1a8 1a9,1a9,283 1ac,1ac,1ad 1ae,1ae,288 1af,1af,1b0 1b1,1b2,28a 1b3,1b3,1b4
1b5,1b5,1b6 1b7,1b7,292 1b8,1b8,1b9 1bc,1bc,1bd 1c4,1c4,1c6 1c5,1c5,1c6 1c7,1c7,1c9 1c8,1c8,1c9
1ca,1ca,1cc 1cb,1cb,1cc 1cd,1cd,1ce 1cf,1cf,1d0 1d1,1d1,1d2 1d3,1d3,1d4 1d5,1d5,1d6 1d7,1d7,1d8
1d9,1d9,1da 1db,1db,1dc 1de,1de,1df 1e0,1e0,1e1 1e2,1e2,1e3 1e4,1e4,1e5 1e6,1e6,1e7 1e8,1e8,1e9
1ea,1ea,1eb 1ec,1ec,1ed 1ee,1ee,1ef 1f1,1f1,1f3 1f2,1f2,1f3 1f4,1f4,1f5 1f6,1f6,195 1f7,1f7,1bf
1f8,1f8,1f9 1fa,1fa,1fb 1fc,1fc,1fd 1fe,1fe,1ff 200,200,201 202,202,203 204,204,205 206,206,207
208,208,209 20a,20a,20b 20c,20c,20d 20e,20e,20f 210,210,211 212,212,213 214,214,215 216,216,217
218,218,219 21a,21a,21b 21c,21c,21d 21e,21e,21f 220,220,19e 222,222,223 224,224,225 226,226,227
228,228,229 22a,22a,22b 22c,22c,22d 22e,22e,22f 230,230,231 232,232,233 23a,23a,2c65 23b,23b,23c
23d,23d,19a 23e,23e,2c66 241,241,242 243,243,180 244,244,289 245,245,28c 246,246,247 248,248,249
24a,24a,24b 24c,24c,24d 24e,24e,24f 370,370,371 372,372,373 376,376,377 37f,37f,3f3 386,386,3ac
388,38a,3ad 38c,38c,3cc 38e,38f,3cd 391,3a1,3b1 3a3,3ab,3c3 3cf,3cf,3d7 3d8,3d8,3d9 3da,3da,3db
3dc,3dc,3dd 3de,3de,3df 3e0,3e0,3e1 3e2,3e2,3e3 3e4,3e4,3e5 3e6,3e6,3e7 3e8,3e8,3e9 3ea,3ea,3eb
3ec,3ec,3ed 3ee,3ee,3ef 3f4,3f4,3b8 3f7,3f7,3f8 3f9,3f9,3f2 3fa,3fa,3fb 3fd,3ff,37b 400,40f,450
410,42f,430 460,460,461 462,462,463 464,464,465 466,466,467 468,468,469 46a,46a,46b 46c,46c,46d
46e,46e,46f 470,470,471 472,472,473 474,474,475 476,476,477 478,478,479 47a,47a,47b 47c,47c,47d
47e,47e,47f 480,480,481 48a,48a,48b 48c,48c,48d 48e,48e,48f 490,490,491 492,492,493 494,494,495
496,496,497 498,498,499 49a,49a,49b 49c,49c,49d 49e,49e,49f 4a0,4a0,4a1 4a2,4a2,4a3 4a4,4a4,4a5
4a6,4a6,4a7 4a8,4a8,4a9 4aa,4aa,4ab 4ac,4ac,4ad 4ae,4ae,4af 4b0,4b0,4b1 4b2,4b2,4b3 4b4,4b4,4b5
4b6,4b6,4b7 4b8,4b8,4b9 4ba,4ba,4bb 4bc,4bc,4bd 4be,4be,4bf 4c0,4c0,4cf 4c1,4c1,4c2 4c3,4c3,4c4
4c5,4c5,4c6 4c7,4c7,4c8 4c9,4c9,4ca 4cb,4cb,4cc 4cd,4cd,4ce 4d0,4d0,4d1 4d2,4d2,4d3 4d4,4d4,4d5
4d6,4d6,4d7 4d8,4d8,4d9 4da,4da,4db 4dc,4dc,4dd 4de,4de,4df 4e0,4e0,4e1 4e2,4e2,4e3 4e4,4e4,4e5
4e6,4e6,4e7 4e8,4e8,4e9 4ea,4ea,4eb 4ec,4ec,4ed 4ee,4ee,4ef 4f0,4f0,4f1 4f2,4f2,4f3 4f4,4f4,4f5
4f6,4f6,4f7 4f8,4f8,4f9 4fa,4fa,4fb 4fc,4fc,4fd 4fe,4fe,4ff 500,500,501 502,502,503 504,504,505
506,506,507 508,508,509 50a,50a,50b 50c,50c,50d 50e,50e,50f 510,510,511 512,512,513 514,514,515
516,516,517 518,518,519 51a,51a,51b 51c,51c,51d 51e,51e,51f 520,520,521 522,522,523 524,524,525
526,526,527 528,528,529 52a,52a,52b 52c,52c,52d 52e,52e,52f 531,556,561 10a0,10c5,2d00 10c7,10c7,2d27
10cd,10cd,2d2d 13a0,13ef,ab70 13f0,13f5,13f8 1c89,1c89,1c8a 1c90,1cba,10d0 1cbd,1cbf,10fd 1e00,1e00,1e01 1e02,1e02,1e03
1e04,1e04,1e05 1e06,1e06,1e07 1e08,1e08,1e09 1e0a,1e0a,1e0b 1e0c,1e0c,1e0d 1e0e,1e0e,1e0f 1e10,1e10,1e11 1e12,1e12,1e13
1e14,1e14,1e15 1e16,1e16,1e17 1e18,1e18,1e19 1e1a,1e1a,1e1b 1e1c,1e1c,1e1d 1e1e,1e1e,1e1f 1e20,1e20,1e21 1e22,1e22,1e23
1e24,1e24,1e25 1e26,1e26,1e27 1e28,1e28,1e29 1e2a,1e2a,1e2b 1e2c,1e2c,1e2d 1e2e,1e2e,1e2f 1e30,1e30,1e31 1e32,1e32,1e33
1e34,1e34,1e35 1e36,1e36,1e37 1e38,1e38,1e39 1e3a,1e3a,1e3b 1e3c,1e3c,1e3d 1e3e,1e3e,1e3f 1e40,1e40,1e41 1e42,1e42,1e43
1e44,1e44,1e45 1e46,1e46,1e47 1e48,1e48,1e49 1e4a,1e4a,1e4b 1e4c,1e4c,1e4d 1e4e,1e4e,1e4f 1e50,1e50,1e51 1e52,1e52,1e53
1e54,1e54,1e55 1e56,1e56,1e57 1e58,1e58,1e59 1e5a,1e5a,1e5b 1e5c,1e5c,1e5d 1e5e,1e5e,1e5f 1e60,1e60,1e61 1e62,1e62,1e63
1e64,1e64,1e65 1e66,1e66,1e67 1e68,1e68,1e69 1e6a,1e6a,1e6b 1e6c,1e6c,1e6d 1e6e,1e6e,1e6f 1e70,1e70,1e71 1e72,1e72,1e73
1e74,1e74,1e75 1e76,1e76,1e77 1e78,1e78,1e79 1e7a,1e7a,1e7b 1e7c,1e7c,1e7d 1e7e,1e7e,1e7f 1e80,1e80,1e81 1e82,1e82,1e83
1e84,1e84,1e85 1e86,1e86,1e87 1e88,1e88,1e89 1e8a,1e8a,1e8b 1e8c,1e8c,1e8d 1e8e,1e8e,1e8f 1e90,1e90,1e91 1e92,1e92,1e93
1e94,1e94,1e95 1e9e,1e9e,df 1ea0,1ea0,1ea1 1ea2,1ea2,1ea3 1ea4,1ea4,1ea5 1ea6,1ea6,1ea7 1ea8,1ea8,1ea9 1eaa,1eaa,1eab
1eac,1eac,1ead 1eae,1eae,1eaf 1eb0,1eb0,1eb1 1eb2,1eb2,1eb3 1eb4,1eb4,1eb5 1eb6,1eb6,1eb7 1eb8,1eb8,1eb9 1eba,1eba,1ebb
1ebc,1ebc,1ebd 1ebe,1ebe,1ebf 1ec0,1ec0,1ec1 1ec2,1ec2,1ec3 1ec4,1ec4,1ec5 1ec6,1ec6,1ec7 1ec8,1ec8,1ec9 1eca,1eca,1ecb
1ecc,1ecc,1ecd 1ece,1ece,1ecf 1ed0,1ed0,1ed1 1ed2,1ed2,1ed3 1ed4,1ed4,1ed5 1ed6,1ed6,1ed7 1ed8,1ed8,1ed9 1eda,1eda,1edb
1edc,1edc,1edd 1ede,1ede,1edf 1ee0,1ee0,1ee1 1ee2,1ee2,1ee3 1ee4,1ee4,1ee5 1ee6,1ee6,1ee7 1ee8,1ee8,1ee9 1eea,1eea,1eeb
1eec,1eec,1eed 1eee,1eee,1eef 1ef0,1ef0,1ef1 1ef2,1ef2,1ef3 1ef4,1ef4,1ef5 1ef6,1ef6,1ef7 1ef8,1ef8,1ef9 1efa,1efa,1efb
1efc,1efc,1efd 1efe,1efe,1eff 1f08,1f0f,1f00 1f18,1f1d,1f10 1f28,1f2f,1f20 1f38,1f3f,1f30 1f48,1f4d,1f40 1f59,1f59,1f51
1f5b,1f5b,1f53 1f5d,1f5d,1f55 1f5f,1f5f,1f57 1f68,1f6f,1f60 1f88,1f8f,1f80 1f98,1f9f,1f90 1fa8,1faf,1fa0 1fb8,1fb9,1fb0
1fba,1fbb,1f70 1fbc,1fbc,1fb3 1fc8,1fcb,1f72 1fcc,1fcc,1fc3 1fd8,1fd9,1fd0 1fda,1fdb,1f76 1fe8,1fe9,1fe0 1fea,1feb,1f7a
1fec,1fec,1fe5 1ff8,1ff9,1f78 1ffa,1ffb,1f7c 1ffc,1ffc,1ff3 2126,2126,3c9 212a,212a,6b 212b,212b,e5 2132,2132,214e
2160,216f,2170 2183,2183,2184 24b6,24cf,24d0 2c00,2c2f,2c30 2c60,2c60,2c61 2c62,2c62,26b 2c63,2c63,1d7d 2c64,2c64,27d
2c67,2c67,2c68 2c69,2c69,2c6a 2c6b,2c6b,2c6c 2c6d,2c6d,251 2c6e,2c6e,271 2c6f,2c6f,250 2c70,2c70,252 2c72,2c72,2c73
2c75,2c75,2c76 2c7e,2c7f,23f 2c80,2c80,2c81 2c82,2c82,2c83 2c84,2c84,2c85 2c86,2c86,2c87 2c88,2c88,2c89 2c8a,2c8a,2c8b
2c8c,2c8c,2c8d 2c8e,2c8e,2c8f 2c90,2c90,2c91 2c92,2c92,2c93 2c94,2c94,2c95 2c96,2c96,2c97 2c98,2c98,2c99 2c9a,2c9a,2c9b
2c9c,2c9c,2c9d 2c9e,2c9e,2c9f 2ca0,2ca0,2ca1 2ca2,2ca2,2ca3 2ca4,2ca4,2ca5 2ca6,2ca6,2ca7 2ca8,2ca8,2ca9 2caa,2caa,2cab
2cac,2cac,2cad 2cae,2cae,2caf 2cb0,2cb0,2cb1 2cb2,2cb2,2cb3 2cb4,2cb4,2cb5 2cb6,2cb6,2cb7 2cb8,2cb8,2cb9 2cba,2cba,2cbb
2cbc,2cbc,2cbd 2cbe,2cbe,2cbf 2cc0,2cc0,2cc1 2cc2,2cc2,2cc3 2cc4,2cc4,2cc5 2cc6,2cc6,2cc7 2cc8,2cc8,2cc9 2cca,2cca,2ccb
2ccc,2ccc,2ccd 2cce,2cce,2ccf 2cd0,2cd0,2cd1 2cd2,2cd2,2cd3 2cd4,2cd4,2cd5 2cd6,2cd6,2cd7 2cd8,2cd8,2cd9 2cda,2cda,2cdb
2cdc,2cdc,2cdd 2cde,2cde,2cdf 2ce0,2ce0,2ce1 2ce2,2ce2,2ce3 2ceb,2ceb,2cec 2ced,2ced,2cee 2cf2,2cf2,2cf3 a640,a640,a641
a642,a642,a643 a644,a644,a645 a646,a646,a647 a648,a648,a649 a64a,a64a,a64b a64c,a64c,a64d a64e,a64e,a64f a650,a650,a651
a652,a652,a653 a654,a654,a655 a656,a656,a657 a658,a658,a659 a65a,a65a,a65b a65c,a65c,a65d a65e,a65e,a65f a660,a660,a661
a662,a662,a663 a664,a664,a665 a666,a666,a667 a668,a668,a669 a66a,a66a,a66b a66c,a66c,a66d a680,a680,a681 a682,a682,a683
a684,a684,a685 a686,a686,a687 a688,a688,a689 a68a,a68a,a68b a68c,a68c,a68d a68e,a68e,a68f a690,a690,a691 a692,a692,a693
a694,a694,a695 a696,a696,a697 a698,a698,a699 a69a,a69a,a69b a722,a722,a723 a724,a724,a725 a726,a726,a727 a728,a728,a729
a72a,a72a,a72b a72c,a72c,a72d a72e,a72e,a72f a732,a732,a733 a734,a734,a735 a736,a736,a737 a738,a738,a739 a73a,a73a,a73b
a73c,a73c,a73d a73e,a73e,a73f a740,a740,a741 a742,a742,a743 a744,a744,a745 a746,a746,a747 a748,a748,a749 a74a,a74a,a74b
a74c,a74c,a74d a74e,a74e,a74f a750,a750,a751 a752,a752,a753 a754,a754,a755 a756,a756,a757 a758,a758,a759 a75a,a75a,a75b
a75c,a75c,a75d a75e,a75e,a75f a760,a760,a761 a762,a762,a763 a764,a764,a765 a766,a766,a767 a768,a768,a769 a76a,a76a,a76b
a76c,a76c,a76d a76e,a76e,a76f a779,a779,a77a a77b,a77b,a77c a77d,a77d,1d79 a77e,a77e,a77f a780,a780,a781 a782,a782,a783
a784,a784,a785 a786,a786,a787 a78b,a78b,a78c a78d,a78d,265 a790,a790,a791 a792,a792,a793 a796,a796,a797 a798,a798,a799
a79a,a79a,a79b a79c,a79c,a79d a79e,a79e,a79f a7a0,a7a0,a7a1 a7a2,a7a2,a7a3 a7a4,a7a4,a7a5 a7a6,a7a6,a7a7 a7a8,a7a8,a7a9
a7aa,a7aa,266 a7ab,a7ab,25c a7ac,a7ac,261 a7ad,a7ad,26c a7ae,a7ae,26a a7b0,a7b0,29e a7b1,a7b1,287 a7b2,a7b2,29d
a7b3,a7b3,ab53 a7b4,a7b4,a7b5 a7b6,a7b6,a7b7 a7b8,a7b8,a7b9 a7ba,a7ba,a7bb a7bc,a7bc,a7bd a7be,a7be,a7bf a7c0,a7c0,a7c1
a7c2,a7c2,a7c3 a7c4,a7c4,a794 a7c5,a7c5,282 a7c6,a7c6,1d8e a7c7,a7c7,a7c8 a7c9,a7c9,a7ca a7cb,a7cb,264 a7cc,a7cc,a7cd
a7ce,a7ce,a7cf a7d0,a7d0,a7d1 a7d2,a7d2,a7d3 a7d4,a7d4,a7d5 a7d6,a7d6,a7d7 a7d8,a7d8,a7d9 a7da,a7da,a7db a7dc,a7dc,19b
a7f5,a7f5,a7f6 ff21,ff3a,ff41 10400,10427,10428 104b0,104d3,104d8 10570,1057a,10597 1057c,1058a,105a3 1058c,10592,105b3 10594,10595,105bb
10c80,10cb2,10cc0 10d50,10d65,10d70 118a0,118bf,118c0 16e40,16e5f,16e60 16ea0,16eb8,16ebb 1e900,1e921,1e922"

/-- The cased characters, in ascending order. -/
def casedText : String :=
"41,5a 61,7a aa,aa b5,b5 ba,ba c0,d6 d8,f6 f8,1ba 1bc,1bf 1c4,293 296,2b8 2c0,2c1 2e0,2e4 345,345
370,373 376,377 37a,37d 37f,37f 386,386 388,38a 38c,38c 38e,3a1 3a3,3f5 3f7,481 48a,52f 531,556
560,588 10a0,10c5 10c7,10c7 10cd,10cd 10d0,10fa 10fc,10ff 13a0,13f5 13f8,13fd 1c80,1c8a 1c90,1cba
1cbd,1cbf 1d00,1dbf 1e00,1f15 1f18,1f1d 1f20,1f45 1f48,1f4d 1f50,1f57 1f59,1f59 1f5b,1f5b 1f5d,1f5d
1f5f,1f7d 1f80,1fb4 1fb6,1fbc 1fbe,1fbe 1fc2,1fc4 1fc6,1fcc 1fd0,1fd3 1fd6,1fdb 1fe0,1fec 1ff2,1ff4
1ff6,1ffc 2071,2071 207f,207f 2090,209c 2102,2102 2107,2107 210a,2113 2115,2115 2119,211d 2124,2124
2126,2126 2128,2128 212a,212d 212f,2134 2139,2139 213c,213f 2145,2149 214e,214e 2160,217f 2183,2184
24b6,24e9 2c00,2ce4 2ceb,2cee 2cf2,2cf3 2d00,2d25 2d27,2d27 2d2d,2d2d a640,a66d a680,a69d a722,a787
a78b,a78e a790,a7dc a7f1,a7f6 a7f8,a7fa ab30,ab5a ab5c,ab69 ab70,abbf fb00,fb06 fb13,fb17 ff21,ff3a
ff41,ff5a 10400,1044f 104b0,104d3 104d8,104fb 10570,1057a 1057c,1058a 1058c,10592 10594,10595
10597,105a1 105a3,105b1 105b3,105b9 105bb,105bc 10780,10780 10783,10785 10787,107b0 107b2,107ba
10c80,10cb2 10cc0,10cf2 10d50,10d65 10d70,10d85 118a0,118df 16e40,16e7f 16ea0,16eb8 16ebb,16ed3
1d400,1d454 1d456,1d49c 1d49e,1d49f 1d4a2,1d4a2 1d4a5,1d4a6 1d4a9,1d4ac 1d4ae,1d4b9 1d4bb,1d4bb
1d4bd,1d4c3 1d4c5,1d505 1d507,1d50a 1d50d,1d514 1d516,1d51c 1d51e,1d539 1d53b,1d53e 1d540,1d544
1d546,1d546 1d54a,1d550 1d552,1d6a5 1d6a8,1d6c0 1d6c2,1d6da 1d6dc,1d6fa 1d6fc,1d714 1d716,1d734
1d736,1d74e 1d750,1d76e 1d770,1d788 1d78a,1d7a8 1d7aa,1d7c2 1d7c4,1d7cb 1df00,1df09 1df0b,1df1e
1df25,1df2a 1e030,1e06d 1e900,1e943 1f130,1f149 1f150,1f169 1f170,1f189"

/-- The case-ignorable characters, in ascending order. -/
def caseIgnorableText : String :=
"27,27 2e,2e 3a,3a 5e,5e 60,60 a8,a8 ad,ad af,af b4,b4 b7,b8 2b0,36f 374,375 37a,37a 384,385 387,387
483,489 559,559 55f,55f 591,5bd 5bf,5bf 5c1,5c2 5c4,5c5 5c7,5c7 5f4,5f4 600,605 610,61a 61c,61c
640,640 64b,65f 670,670 6d6,6dd 6df,6e8 6ea,6ed 70f,70f 711,711 730,74a 7a6,7b0 7eb,7f5 7fa,7fa
7fd,7fd 816,82d 859,85b 888,888 890,891 897,89f 8c9,902 93a,93a 93c,93c 941,948 94d,94d 951,957
962,963 971,971 981,981 9bc,9bc 9c1,9c4 9cd,9cd 9e2,9e3 9fe,9fe a01,a02 a3c,a3c a41,a42 a47,a48
a4b,a4d a51,a51 a70,a71 a75,a75 a81,a82 abc,abc ac1,ac5 ac7,ac8 acd,acd ae2,ae3 afa,aff b01,b01
b3c,b3c b3f,b3f b41,b44 b4d,b4d b55,b56 b62,b63 b82,b82 bc0,bc0 bcd,bcd c00,c00 c04,c04 c3c,c3c
c3e,c40 c46,c48 c4a,c4d c55,c56 c62,c63 c81,c81 cbc,cbc cbf,cbf cc6,cc6 ccc,ccd ce2,ce3 d00,d01
d3b,d3c d41,d44 d4d,d4d d62,d63 d81,d81 dca,dca dd2,dd4 dd6,dd6 e31,e31 e34,e3a e46,e4e eb1,eb1
eb4,ebc ec6,ec6 ec8,ece f18,f19 f35,f35 f37,f37 f39,f39 f71,f7e f80,f84 f86,f87 f8d,f97 f99,fbc
fc6,fc6 102d,1030 1032,1037 1039,103a 103d,103e 1058,1059 105e,1060 1071,1074 1082,1082 1085,1086
108d,108d 109d,109d 10fc,10fc 135d,135f 1712,1714 1732,1733 1752,1753 1772,1773 17b4,17b5 17b7,17bd
17c6,17c6 17c9,17d3 17d7,17d7 17dd,17dd 180b,180f 1843,1843 1885,1886 18a9,18a9 1920,1922 1927,1928
1932,1932 1939,193b 1a17,1a18 1a1b,1a1b 1a56,1a56 1a58,1a5e 1a60,1a60 1a62,1a62 1a65,1a6c 1a73,1a7c
1a7f,1a7f 1aa7,1aa7 1ab0,1add 1ae0,1aeb 1b00,1b03 1b34,1b34 1b36,1b3a 1b3c,1b3c 1b42,1b42 1b6b,1b73
1b80,1b81 1ba2,1ba5 1ba8,1ba9 1bab,1bad 1be6,1be6 1be8,1be9 1bed,1bed 1bef,1bf1 1c2c,1c33 1c36,1c37
1c78,1c7d 1cd0,1cd2 1cd4,1ce0 1ce2,1ce8 1ced,1ced 1cf4,1cf4 1cf8,1cf9 1d2c,1d6a 1d78,1d78 1d9b,1dff
1fbd,1fbd 1fbf,1fc1 1fcd,1fcf 1fdd,1fdf 1fed,1fef 1ffd,1ffe 200b,200f 2018,2019 2024,2024 2027,2027
202a,202e 2060,2064 2066,206f 2071,2071 207f,207f 2090,209c 20d0,20f0 2c7c,2c7d 2cef,2cf1 2d6f,2d6f
2d7f,2d7f 2de0,2dff 2e2f,2e2f 3005,3005 302a,302d 3031,3035 303b,303b 3099,309e 30fc,30fe a015,a015
a4f8,a4fd a60c,a60c a66f,a672 a674,a67d a67f,a67f a69c,a69f a6f0,a6f1 a700,a721 a770,a770 a788,a78a
a7f1,a7f4 a7f8,a7f9 a802,a802 a806,a806 a80b,a80b a825,a826 a82c,a82c a8c4,a8c5 a8e0,a8f1 a8ff,a8ff
a926,a92d a947,a951 a980,a982 a9b3,a9b3 a9b6,a9b9 a9bc,a9bd a9cf,a9cf a9e5,a9e6 aa29,aa2e aa31,aa32
aa35,aa36 aa43,aa43 aa4c,aa4c aa70,aa70 aa7c,aa7c aab0,aab0 aab2,aab4 aab7,aab8 aabe,aabf aac1,aac1
aadd,aadd aaec,aaed aaf3,aaf4 aaf6,aaf6 ab5b,ab5f ab69,ab6b abe5,abe5 abe8,abe8 abed,abed fb1e,fb1e
fbb2,fbc2 fe00,fe0f fe13,fe13 fe20,fe2f fe52,fe52 fe55,fe55 feff,feff ff07,ff07 ff0e,ff0e ff1a,ff1a
ff3e,ff3e ff40,ff40 ff70,ff70 ff9e,ff9f ffe3,ffe3 fff9,fffb 101fd,101fd 102e0,102e0 10376,1037a
10780,10785 10787,107b0 107b2,107ba 10a01,10a03 10a05,10a06 10a0c,10a0f 10a38,10a3a 10a3f,10a3f
10ae5,10ae6 10d24,10d27 10d4e,10d4e 10d69,10d6d 10d6f,10d6f 10eab,10eac 10ec5,10ec5 10efa,10eff
10f46,10f50 10f82,10f85 11001,11001 11038,11046 11070,11070 11073,11074 1107f,11081 110b3,110b6
110b9,110ba 110bd,110bd 110c2,110c2 110cd,110cd 11100,11102 11127,1112b 1112d,11134 11173,11173
11180,11181 111b6,111be 111c9,111cc 111cf,111cf 1122f,11231 11234,11234 11236,11237 1123e,1123e
11241,11241 112df,112df 112e3,112ea 11300,11301 1133b,1133c 11340,11340 11366,1136c 11370,11374
113bb,113c0 113ce,113ce 113d0,113d0 113d2,113d2 113e1,113e2 11438,1143f 11442,11444 11446,11446
1145e,1145e 114b3,114b8 114ba,114ba 114bf,114c0 114c2,114c3 115b2,115b5 115bc,115bd 115bf,115c0
115dc,115dd 11633,1163a 1163d,1163d 1163f,11640 116ab,116ab 116ad,116ad 116b0,116b5 116b7,116b7
1171d,1171d 1171f,1171f 11722,11725 11727,1172b 1182f,11837 11839,1183a 1193b,1193c 1193e,1193e
11943,11943 119d4,119d7 119da,119db 119e0,119e0 11a01,11a0a 11a33,11a38 11a3b,11a3e 11a47,11a47
11a51,11a56 11a59,11a5b 11a8a,11a96 11a98,11a99 11b60,11b60 11b62,11b64 11b66,11b66 11c30,11c36
11c38,11c3d 11c3f,11c3f 11c92,11ca7 11caa,11cb0 11cb2,11cb3 11cb5,11cb6 11d31,11d36 11d3a,11d3a
11d3c,11d3d 11d3f,11d45 11d47,11d47 11d90,11d91 11d95,11d95 11d97,11d97 11dd9,11dd9 11ef3,11ef4
11f00,11f01 11f36,11f3a 11f40,11f40 11f42,11f42 11f5a,11f5a 13430,13440 13447,13455 1611e,16129
1612d,1612f 16af0,16af4 16b30,16b36 16b40,16b43 16d40,16d42 16d6b,16d6c 16f4f,16f4f 16f8f,16f9f
16fe0,16fe1 16fe3,16fe4 16ff2,16ff3 1aff0,1aff3 1aff5,1affb 1affd,1affe 1bc9d,1bc9e 1bca0,1bca3
1cf00,1cf2d 1cf30,1cf46 1d167,1d169 1d173,1d182 1d185,1d18b 1d1aa,1d1ad 1d242,1d244 1da00,1da36
1da3b,1da6c 1da75,1da75 1da84,1da84 1da9b,1da9f 1daa1,1daaf 1e000,1e006 1e008,1e018 1e01b,1e021
1e023,1e024 1e026,1e02a 1e030,1e06d 1e08f,1e08f 1e130,1e13d 1e2ae,1e2ae 1e2ec,1e2ef 1e4eb,1e4ef
1e5ee,1e5ef 1e6e3,1e6e3 1e6e6,1e6e6 1e6ee,1e6ef 1e6f5,1e6f5 1e6ff,1e6ff 1e8d0,1e8d6 1e944,1e94b
1f3fb,1f3ff e0001,e0001 e0020,e007f e0100,e01ef"

end HttpCall.Case
