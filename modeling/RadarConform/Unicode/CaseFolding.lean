import RadarConform.Unicode.RangeTable

/-!
# Simple case folding

Two characters are the same up to case when they have the same simple case folding in Unicode 16.0.
The table lists, for every character that is not alone in this respect, the others.

* `caseVariants`: the other characters that a character equals up to case.
-/

namespace RadarConform.Unicode

/-- Entries in the order of code points: the step from the entry before, a colon, and the other
members of the class, all in hexadecimal. -/
def caseClasses : String :=
  "41:61 1:62 1:63 1:64 1:65 1:66 1:67 1:68 1:69 1:6a 1:6b,212a 1:6c 1:6d 1:6e 1:6f 1:70 1:71
    1:72 1:73,17f 1:74 1:75 1:76 1:77 1:78 1:79 1:7a 7:41 1:42 1:43 1:44 1:45 1:46 1:47 1:48
    1:49 1:4a 1:4b,212a 1:4c 1:4d 1:4e 1:4f 1:50 1:51 1:52 1:53,17f 1:54 1:55 1:56 1:57 1:58
    1:59 1:5a 3b:39c,3bc b:e0 1:e1 1:e2 1:e3 1:e4 1:e5,212b 1:e6 1:e7 1:e8 1:e9 1:ea 1:eb 1:ec
    1:ed 1:ee 1:ef 1:f0 1:f1 1:f2 1:f3 1:f4 1:f5 1:f6 2:f8 1:f9 1:fa 1:fb 1:fc 1:fd 1:fe 1:1e9e
    1:c0 1:c1 1:c2 1:c3 1:c4 1:c5,212b 1:c6 1:c7 1:c8 1:c9 1:ca 1:cb 1:cc 1:cd 1:ce 1:cf 1:d0
    1:d1 1:d2 1:d3 1:d4 1:d5 1:d6 2:d8 1:d9 1:da 1:db 1:dc 1:dd 1:de 1:178 1:101 1:100 1:103
    1:102 1:105 1:104 1:107 1:106 1:109 1:108 1:10b 1:10a 1:10d 1:10c 1:10f 1:10e 1:111 1:110
    1:113 1:112 1:115 1:114 1:117 1:116 1:119 1:118 1:11b 1:11a 1:11d 1:11c 1:11f 1:11e 1:121
    1:120 1:123 1:122 1:125 1:124 1:127 1:126 1:129 1:128 1:12b 1:12a 1:12d 1:12c 1:12f 1:12e
    3:133 1:132 1:135 1:134 1:137 1:136 2:13a 1:139 1:13c 1:13b 1:13e 1:13d 1:140 1:13f 1:142
    1:141 1:144 1:143 1:146 1:145 1:148 1:147 2:14b 1:14a 1:14d 1:14c 1:14f 1:14e 1:151 1:150
    1:153 1:152 1:155 1:154 1:157 1:156 1:159 1:158 1:15b 1:15a 1:15d 1:15c 1:15f 1:15e 1:161
    1:160 1:163 1:162 1:165 1:164 1:167 1:166 1:169 1:168 1:16b 1:16a 1:16d 1:16c 1:16f 1:16e
    1:171 1:170 1:173 1:172 1:175 1:174 1:177 1:176 1:ff 1:17a 1:179 1:17c 1:17b 1:17e 1:17d
    1:53,73 1:243 1:253 1:183 1:182 1:185 1:184 1:254 1:188 1:187 1:256 1:257 1:18c 1:18b 2:1dd
    1:259 1:25b 1:192 1:191 1:260 1:263 1:1f6 1:269 1:268 1:199 1:198 1:23d 1:a7dc 1:26f 1:272
    1:220 1:275 1:1a1 1:1a0 1:1a3 1:1a2 1:1a5 1:1a4 1:280 1:1a8 1:1a7 1:283 3:1ad 1:1ac 1:288
    1:1b0 1:1af 1:28a 1:28b 1:1b4 1:1b3 1:1b6 1:1b5 1:292 1:1b9 1:1b8 3:1bd 1:1bc 2:1f7
    5:1c5,1c6 1:1c4,1c6 1:1c4,1c5 1:1c8,1c9 1:1c7,1c9 1:1c7,1c8 1:1cb,1cc 1:1ca,1cc 1:1ca,1cb
    1:1ce 1:1cd 1:1d0 1:1cf 1:1d2 1:1d1 1:1d4 1:1d3 1:1d6 1:1d5 1:1d8 1:1d7 1:1da 1:1d9 1:1dc
    1:1db 1:18e 1:1df 1:1de 1:1e1 1:1e0 1:1e3 1:1e2 1:1e5 1:1e4 1:1e7 1:1e6 1:1e9 1:1e8 1:1eb
    1:1ea 1:1ed 1:1ec 1:1ef 1:1ee 2:1f2,1f3 1:1f1,1f3 1:1f1,1f2 1:1f5 1:1f4 1:195 1:1bf 1:1f9
    1:1f8 1:1fb 1:1fa 1:1fd 1:1fc 1:1ff 1:1fe 1:201 1:200 1:203 1:202 1:205 1:204 1:207 1:206
    1:209 1:208 1:20b 1:20a 1:20d 1:20c 1:20f 1:20e 1:211 1:210 1:213 1:212 1:215 1:214 1:217
    1:216 1:219 1:218 1:21b 1:21a 1:21d 1:21c 1:21f 1:21e 1:19e 2:223 1:222 1:225 1:224 1:227
    1:226 1:229 1:228 1:22b 1:22a 1:22d 1:22c 1:22f 1:22e 1:231 1:230 1:233 1:232 7:2c65 1:23c
    1:23b 1:19a 1:2c66 1:2c7e 1:2c7f 1:242 1:241 1:180 1:289 1:28c 1:247 1:246 1:249 1:248 1:24b
    1:24a 1:24d 1:24c 1:24f 1:24e 1:2c6f 1:2c6d 1:2c70 1:181 1:186 2:189 1:18a 2:18f 2:190
    1:a7ab 4:193 1:a7ac 2:194 1:a7cb 1:a78d 1:a7aa 2:197 1:196 1:a7ae 1:2c62 1:a7ad 3:19c 2:2c6e
    1:19d 3:19f 8:2c64 3:1a6 2:a7c5 1:1a9 4:a7b1 1:1ae 1:244 1:1b1 1:1b2 1:245 6:1b7 b:a7b2
    1:a7b0 a7:399,3b9,1fbe 2b:371 1:370 1:373 1:372 3:377 1:376 4:3fd 1:3fe 1:3ff 2:3f3 7:3ac
    2:3ad 1:3ae 1:3af 2:3cc 2:3cd 1:3ce 1:1fd3 1:3b1 1:3b2,3d0 1:3b3 1:3b4 1:3b5,3f5 1:3b6 1:3b7
    1:3b8,3d1,3f4 1:345,3b9,1fbe 1:3ba,3f0 1:3bb 1:b5,3bc 1:3bd 1:3be 1:3bf 1:3c0,3d6 1:3c1,3f1
    2:3c2,3c3 1:3c4 1:3c5 1:3c6,3d5 1:3c7 1:3c8 1:3c9,2126 1:3ca 1:3cb 1:386 1:388 1:389 1:38a
    1:1fe3 1:391 1:392,3d0 1:393 1:394 1:395,3f5 1:396 1:397 1:398,3d1,3f4 1:345,399,1fbe
    1:39a,3f0 1:39b 1:b5,39c 1:39d 1:39e 1:39f 1:3a0,3d6 1:3a1,3f1 1:3a3,3c3 1:3a3,3c2 1:3a4
    1:3a5 1:3a6,3d5 1:3a7 1:3a8 1:3a9,2126 1:3aa 1:3ab 1:38c 1:38e 1:38f 1:3d7 1:392,3b2
    1:398,3b8,3f4 4:3a6,3c6 1:3a0,3c0 1:3cf 1:3d9 1:3d8 1:3db 1:3da 1:3dd 1:3dc 1:3df 1:3de
    1:3e1 1:3e0 1:3e3 1:3e2 1:3e5 1:3e4 1:3e7 1:3e6 1:3e9 1:3e8 1:3eb 1:3ea 1:3ed 1:3ec 1:3ef
    1:3ee 1:39a,3ba 1:3a1,3c1 1:3f9 1:37f 1:398,3b8,3d1 1:395,3b5 2:3f8 1:3f7 1:3f2 1:3fb 1:3fa
    2:37b 1:37c 1:37d 1:450 1:451 1:452 1:453 1:454 1:455 1:456 1:457 1:458 1:459 1:45a 1:45b
    1:45c 1:45d 1:45e 1:45f 1:430 1:431 1:432,1c80 1:433 1:434,1c81 1:435 1:436 1:437 1:438
    1:439 1:43a 1:43b 1:43c 1:43d 1:43e,1c82 1:43f 1:440 1:441,1c83 1:442,1c84,1c85 1:443 1:444
    1:445 1:446 1:447 1:448 1:449 1:44a,1c86 1:44b 1:44c 1:44d 1:44e 1:44f 1:410 1:411
    1:412,1c80 1:413 1:414,1c81 1:415 1:416 1:417 1:418 1:419 1:41a 1:41b 1:41c 1:41d 1:41e,1c82
    1:41f 1:420 1:421,1c83 1:422,1c84,1c85 1:423 1:424 1:425 1:426 1:427 1:428 1:429 1:42a,1c86
    1:42b 1:42c 1:42d 1:42e 1:42f 1:400 1:401 1:402 1:403 1:404 1:405 1:406 1:407 1:408 1:409
    1:40a 1:40b 1:40c 1:40d 1:40e 1:40f 1:461 1:460 1:463,1c87 1:462,1c87 1:465 1:464 1:467
    1:466 1:469 1:468 1:46b 1:46a 1:46d 1:46c 1:46f 1:46e 1:471 1:470 1:473 1:472 1:475 1:474
    1:477 1:476 1:479 1:478 1:47b 1:47a 1:47d 1:47c 1:47f 1:47e 1:481 1:480 9:48b 1:48a 1:48d
    1:48c 1:48f 1:48e 1:491 1:490 1:493 1:492 1:495 1:494 1:497 1:496 1:499 1:498 1:49b 1:49a
    1:49d 1:49c 1:49f 1:49e 1:4a1 1:4a0 1:4a3 1:4a2 1:4a5 1:4a4 1:4a7 1:4a6 1:4a9 1:4a8 1:4ab
    1:4aa 1:4ad 1:4ac 1:4af 1:4ae 1:4b1 1:4b0 1:4b3 1:4b2 1:4b5 1:4b4 1:4b7 1:4b6 1:4b9 1:4b8
    1:4bb 1:4ba 1:4bd 1:4bc 1:4bf 1:4be 1:4cf 1:4c2 1:4c1 1:4c4 1:4c3 1:4c6 1:4c5 1:4c8 1:4c7
    1:4ca 1:4c9 1:4cc 1:4cb 1:4ce 1:4cd 1:4c0 1:4d1 1:4d0 1:4d3 1:4d2 1:4d5 1:4d4 1:4d7 1:4d6
    1:4d9 1:4d8 1:4db 1:4da 1:4dd 1:4dc 1:4df 1:4de 1:4e1 1:4e0 1:4e3 1:4e2 1:4e5 1:4e4 1:4e7
    1:4e6 1:4e9 1:4e8 1:4eb 1:4ea 1:4ed 1:4ec 1:4ef 1:4ee 1:4f1 1:4f0 1:4f3 1:4f2 1:4f5 1:4f4
    1:4f7 1:4f6 1:4f9 1:4f8 1:4fb 1:4fa 1:4fd 1:4fc 1:4ff 1:4fe 1:501 1:500 1:503 1:502 1:505
    1:504 1:507 1:506 1:509 1:508 1:50b 1:50a 1:50d 1:50c 1:50f 1:50e 1:511 1:510 1:513 1:512
    1:515 1:514 1:517 1:516 1:519 1:518 1:51b 1:51a 1:51d 1:51c 1:51f 1:51e 1:521 1:520 1:523
    1:522 1:525 1:524 1:527 1:526 1:529 1:528 1:52b 1:52a 1:52d 1:52c 1:52f 1:52e 2:561 1:562
    1:563 1:564 1:565 1:566 1:567 1:568 1:569 1:56a 1:56b 1:56c 1:56d 1:56e 1:56f 1:570 1:571
    1:572 1:573 1:574 1:575 1:576 1:577 1:578 1:579 1:57a 1:57b 1:57c 1:57d 1:57e 1:57f 1:580
    1:581 1:582 1:583 1:584 1:585 1:586 b:531 1:532 1:533 1:534 1:535 1:536 1:537 1:538 1:539
    1:53a 1:53b 1:53c 1:53d 1:53e 1:53f 1:540 1:541 1:542 1:543 1:544 1:545 1:546 1:547 1:548
    1:549 1:54a 1:54b 1:54c 1:54d 1:54e 1:54f 1:550 1:551 1:552 1:553 1:554 1:555 1:556 b1a:2d00
    1:2d01 1:2d02 1:2d03 1:2d04 1:2d05 1:2d06 1:2d07 1:2d08 1:2d09 1:2d0a 1:2d0b 1:2d0c 1:2d0d
    1:2d0e 1:2d0f 1:2d10 1:2d11 1:2d12 1:2d13 1:2d14 1:2d15 1:2d16 1:2d17 1:2d18 1:2d19 1:2d1a
    1:2d1b 1:2d1c 1:2d1d 1:2d1e 1:2d1f 1:2d20 1:2d21 1:2d22 1:2d23 1:2d24 1:2d25 2:2d27 6:2d2d
    3:1c90 1:1c91 1:1c92 1:1c93 1:1c94 1:1c95 1:1c96 1:1c97 1:1c98 1:1c99 1:1c9a 1:1c9b 1:1c9c
    1:1c9d 1:1c9e 1:1c9f 1:1ca0 1:1ca1 1:1ca2 1:1ca3 1:1ca4 1:1ca5 1:1ca6 1:1ca7 1:1ca8 1:1ca9
    1:1caa 1:1cab 1:1cac 1:1cad 1:1cae 1:1caf 1:1cb0 1:1cb1 1:1cb2 1:1cb3 1:1cb4 1:1cb5 1:1cb6
    1:1cb7 1:1cb8 1:1cb9 1:1cba 3:1cbd 1:1cbe 1:1cbf 2a1:ab70 1:ab71 1:ab72 1:ab73 1:ab74 1:ab75
    1:ab76 1:ab77 1:ab78 1:ab79 1:ab7a 1:ab7b 1:ab7c 1:ab7d 1:ab7e 1:ab7f 1:ab80 1:ab81 1:ab82
    1:ab83 1:ab84 1:ab85 1:ab86 1:ab87 1:ab88 1:ab89 1:ab8a 1:ab8b 1:ab8c 1:ab8d 1:ab8e 1:ab8f
    1:ab90 1:ab91 1:ab92 1:ab93 1:ab94 1:ab95 1:ab96 1:ab97 1:ab98 1:ab99 1:ab9a 1:ab9b 1:ab9c
    1:ab9d 1:ab9e 1:ab9f 1:aba0 1:aba1 1:aba2 1:aba3 1:aba4 1:aba5 1:aba6 1:aba7 1:aba8 1:aba9
    1:abaa 1:abab 1:abac 1:abad 1:abae 1:abaf 1:abb0 1:abb1 1:abb2 1:abb3 1:abb4 1:abb5 1:abb6
    1:abb7 1:abb8 1:abb9 1:abba 1:abbb 1:abbc 1:abbd 1:abbe 1:abbf 1:13f8 1:13f9 1:13fa 1:13fb
    1:13fc 1:13fd 3:13f0 1:13f1 1:13f2 1:13f3 1:13f4 1:13f5 883:412,432 1:414,434 1:41e,43e
    1:421,441 1:422,442,1c85 1:422,442,1c84 1:42a,44a 1:462,463 1:a64a,a64b 1:1c8a 1:1c89 6:10d0
    1:10d1 1:10d2 1:10d3 1:10d4 1:10d5 1:10d6 1:10d7 1:10d8 1:10d9 1:10da 1:10db 1:10dc 1:10dd
    1:10de 1:10df 1:10e0 1:10e1 1:10e2 1:10e3 1:10e4 1:10e5 1:10e6 1:10e7 1:10e8 1:10e9 1:10ea
    1:10eb 1:10ec 1:10ed 1:10ee 1:10ef 1:10f0 1:10f1 1:10f2 1:10f3 1:10f4 1:10f5 1:10f6 1:10f7
    1:10f8 1:10f9 1:10fa 3:10fd 1:10fe 1:10ff ba:a77d 4:2c63 11:a7c6 72:1e01 1:1e00 1:1e03
    1:1e02 1:1e05 1:1e04 1:1e07 1:1e06 1:1e09 1:1e08 1:1e0b 1:1e0a 1:1e0d 1:1e0c 1:1e0f 1:1e0e
    1:1e11 1:1e10 1:1e13 1:1e12 1:1e15 1:1e14 1:1e17 1:1e16 1:1e19 1:1e18 1:1e1b 1:1e1a 1:1e1d
    1:1e1c 1:1e1f 1:1e1e 1:1e21 1:1e20 1:1e23 1:1e22 1:1e25 1:1e24 1:1e27 1:1e26 1:1e29 1:1e28
    1:1e2b 1:1e2a 1:1e2d 1:1e2c 1:1e2f 1:1e2e 1:1e31 1:1e30 1:1e33 1:1e32 1:1e35 1:1e34 1:1e37
    1:1e36 1:1e39 1:1e38 1:1e3b 1:1e3a 1:1e3d 1:1e3c 1:1e3f 1:1e3e 1:1e41 1:1e40 1:1e43 1:1e42
    1:1e45 1:1e44 1:1e47 1:1e46 1:1e49 1:1e48 1:1e4b 1:1e4a 1:1e4d 1:1e4c 1:1e4f 1:1e4e 1:1e51
    1:1e50 1:1e53 1:1e52 1:1e55 1:1e54 1:1e57 1:1e56 1:1e59 1:1e58 1:1e5b 1:1e5a 1:1e5d 1:1e5c
    1:1e5f 1:1e5e 1:1e61,1e9b 1:1e60,1e9b 1:1e63 1:1e62 1:1e65 1:1e64 1:1e67 1:1e66 1:1e69
    1:1e68 1:1e6b 1:1e6a 1:1e6d 1:1e6c 1:1e6f 1:1e6e 1:1e71 1:1e70 1:1e73 1:1e72 1:1e75 1:1e74
    1:1e77 1:1e76 1:1e79 1:1e78 1:1e7b 1:1e7a 1:1e7d 1:1e7c 1:1e7f 1:1e7e 1:1e81 1:1e80 1:1e83
    1:1e82 1:1e85 1:1e84 1:1e87 1:1e86 1:1e89 1:1e88 1:1e8b 1:1e8a 1:1e8d 1:1e8c 1:1e8f 1:1e8e
    1:1e91 1:1e90 1:1e93 1:1e92 1:1e95 1:1e94 6:1e60,1e61 3:df 2:1ea1 1:1ea0 1:1ea3 1:1ea2
    1:1ea5 1:1ea4 1:1ea7 1:1ea6 1:1ea9 1:1ea8 1:1eab 1:1eaa 1:1ead 1:1eac 1:1eaf 1:1eae 1:1eb1
    1:1eb0 1:1eb3 1:1eb2 1:1eb5 1:1eb4 1:1eb7 1:1eb6 1:1eb9 1:1eb8 1:1ebb 1:1eba 1:1ebd 1:1ebc
    1:1ebf 1:1ebe 1:1ec1 1:1ec0 1:1ec3 1:1ec2 1:1ec5 1:1ec4 1:1ec7 1:1ec6 1:1ec9 1:1ec8 1:1ecb
    1:1eca 1:1ecd 1:1ecc 1:1ecf 1:1ece 1:1ed1 1:1ed0 1:1ed3 1:1ed2 1:1ed5 1:1ed4 1:1ed7 1:1ed6
    1:1ed9 1:1ed8 1:1edb 1:1eda 1:1edd 1:1edc 1:1edf 1:1ede 1:1ee1 1:1ee0 1:1ee3 1:1ee2 1:1ee5
    1:1ee4 1:1ee7 1:1ee6 1:1ee9 1:1ee8 1:1eeb 1:1eea 1:1eed 1:1eec 1:1eef 1:1eee 1:1ef1 1:1ef0
    1:1ef3 1:1ef2 1:1ef5 1:1ef4 1:1ef7 1:1ef6 1:1ef9 1:1ef8 1:1efb 1:1efa 1:1efd 1:1efc 1:1eff
    1:1efe 1:1f08 1:1f09 1:1f0a 1:1f0b 1:1f0c 1:1f0d 1:1f0e 1:1f0f 1:1f00 1:1f01 1:1f02 1:1f03
    1:1f04 1:1f05 1:1f06 1:1f07 1:1f18 1:1f19 1:1f1a 1:1f1b 1:1f1c 1:1f1d 3:1f10 1:1f11 1:1f12
    1:1f13 1:1f14 1:1f15 3:1f28 1:1f29 1:1f2a 1:1f2b 1:1f2c 1:1f2d 1:1f2e 1:1f2f 1:1f20 1:1f21
    1:1f22 1:1f23 1:1f24 1:1f25 1:1f26 1:1f27 1:1f38 1:1f39 1:1f3a 1:1f3b 1:1f3c 1:1f3d 1:1f3e
    1:1f3f 1:1f30 1:1f31 1:1f32 1:1f33 1:1f34 1:1f35 1:1f36 1:1f37 1:1f48 1:1f49 1:1f4a 1:1f4b
    1:1f4c 1:1f4d 3:1f40 1:1f41 1:1f42 1:1f43 1:1f44 1:1f45 4:1f59 2:1f5b 2:1f5d 2:1f5f 2:1f51
    2:1f53 2:1f55 2:1f57 1:1f68 1:1f69 1:1f6a 1:1f6b 1:1f6c 1:1f6d 1:1f6e 1:1f6f 1:1f60 1:1f61
    1:1f62 1:1f63 1:1f64 1:1f65 1:1f66 1:1f67 1:1fba 1:1fbb 1:1fc8 1:1fc9 1:1fca 1:1fcb 1:1fda
    1:1fdb 1:1ff8 1:1ff9 1:1fea 1:1feb 1:1ffa 1:1ffb 3:1f88 1:1f89 1:1f8a 1:1f8b 1:1f8c 1:1f8d
    1:1f8e 1:1f8f 1:1f80 1:1f81 1:1f82 1:1f83 1:1f84 1:1f85 1:1f86 1:1f87 1:1f98 1:1f99 1:1f9a
    1:1f9b 1:1f9c 1:1f9d 1:1f9e 1:1f9f 1:1f90 1:1f91 1:1f92 1:1f93 1:1f94 1:1f95 1:1f96 1:1f97
    1:1fa8 1:1fa9 1:1faa 1:1fab 1:1fac 1:1fad 1:1fae 1:1faf 1:1fa0 1:1fa1 1:1fa2 1:1fa3 1:1fa4
    1:1fa5 1:1fa6 1:1fa7 1:1fb8 1:1fb9 2:1fbc 5:1fb0 1:1fb1 1:1f70 1:1f71 1:1fb3 2:345,399,3b9
    5:1fcc 5:1f72 1:1f73 1:1f74 1:1f75 1:1fc3 4:1fd8 1:1fd9 2:390 5:1fd0 1:1fd1 1:1f76 1:1f77
    5:1fe8 1:1fe9 2:3b0 2:1fec 3:1fe0 1:1fe1 1:1f7a 1:1f7b 1:1fe5 7:1ffc 5:1f78 1:1f79 1:1f7c
    1:1f7d 1:1ff3 12a:3a9,3c9 4:4b,6b 1:c5,e5 7:214e 1c:2132 12:2170 1:2171 1:2172 1:2173 1:2174
    1:2175 1:2176 1:2177 1:2178 1:2179 1:217a 1:217b 1:217c 1:217d 1:217e 1:217f 1:2160 1:2161
    1:2162 1:2163 1:2164 1:2165 1:2166 1:2167 1:2168 1:2169 1:216a 1:216b 1:216c 1:216d 1:216e
    1:216f 4:2184 1:2183 332:24d0 1:24d1 1:24d2 1:24d3 1:24d4 1:24d5 1:24d6 1:24d7 1:24d8 1:24d9
    1:24da 1:24db 1:24dc 1:24dd 1:24de 1:24df 1:24e0 1:24e1 1:24e2 1:24e3 1:24e4 1:24e5 1:24e6
    1:24e7 1:24e8 1:24e9 1:24b6 1:24b7 1:24b8 1:24b9 1:24ba 1:24bb 1:24bc 1:24bd 1:24be 1:24bf
    1:24c0 1:24c1 1:24c2 1:24c3 1:24c4 1:24c5 1:24c6 1:24c7 1:24c8 1:24c9 1:24ca 1:24cb 1:24cc
    1:24cd 1:24ce 1:24cf 717:2c30 1:2c31 1:2c32 1:2c33 1:2c34 1:2c35 1:2c36 1:2c37 1:2c38 1:2c39
    1:2c3a 1:2c3b 1:2c3c 1:2c3d 1:2c3e 1:2c3f 1:2c40 1:2c41 1:2c42 1:2c43 1:2c44 1:2c45 1:2c46
    1:2c47 1:2c48 1:2c49 1:2c4a 1:2c4b 1:2c4c 1:2c4d 1:2c4e 1:2c4f 1:2c50 1:2c51 1:2c52 1:2c53
    1:2c54 1:2c55 1:2c56 1:2c57 1:2c58 1:2c59 1:2c5a 1:2c5b 1:2c5c 1:2c5d 1:2c5e 1:2c5f 1:2c00
    1:2c01 1:2c02 1:2c03 1:2c04 1:2c05 1:2c06 1:2c07 1:2c08 1:2c09 1:2c0a 1:2c0b 1:2c0c 1:2c0d
    1:2c0e 1:2c0f 1:2c10 1:2c11 1:2c12 1:2c13 1:2c14 1:2c15 1:2c16 1:2c17 1:2c18 1:2c19 1:2c1a
    1:2c1b 1:2c1c 1:2c1d 1:2c1e 1:2c1f 1:2c20 1:2c21 1:2c22 1:2c23 1:2c24 1:2c25 1:2c26 1:2c27
    1:2c28 1:2c29 1:2c2a 1:2c2b 1:2c2c 1:2c2d 1:2c2e 1:2c2f 1:2c61 1:2c60 1:26b 1:1d7d 1:27d
    1:23a 1:23e 1:2c68 1:2c67 1:2c6a 1:2c69 1:2c6c 1:2c6b 1:251 1:271 1:250 1:252 2:2c73 1:2c72
    2:2c76 1:2c75 8:23f 1:240 1:2c81 1:2c80 1:2c83 1:2c82 1:2c85 1:2c84 1:2c87 1:2c86 1:2c89
    1:2c88 1:2c8b 1:2c8a 1:2c8d 1:2c8c 1:2c8f 1:2c8e 1:2c91 1:2c90 1:2c93 1:2c92 1:2c95 1:2c94
    1:2c97 1:2c96 1:2c99 1:2c98 1:2c9b 1:2c9a 1:2c9d 1:2c9c 1:2c9f 1:2c9e 1:2ca1 1:2ca0 1:2ca3
    1:2ca2 1:2ca5 1:2ca4 1:2ca7 1:2ca6 1:2ca9 1:2ca8 1:2cab 1:2caa 1:2cad 1:2cac 1:2caf 1:2cae
    1:2cb1 1:2cb0 1:2cb3 1:2cb2 1:2cb5 1:2cb4 1:2cb7 1:2cb6 1:2cb9 1:2cb8 1:2cbb 1:2cba 1:2cbd
    1:2cbc 1:2cbf 1:2cbe 1:2cc1 1:2cc0 1:2cc3 1:2cc2 1:2cc5 1:2cc4 1:2cc7 1:2cc6 1:2cc9 1:2cc8
    1:2ccb 1:2cca 1:2ccd 1:2ccc 1:2ccf 1:2cce 1:2cd1 1:2cd0 1:2cd3 1:2cd2 1:2cd5 1:2cd4 1:2cd7
    1:2cd6 1:2cd9 1:2cd8 1:2cdb 1:2cda 1:2cdd 1:2cdc 1:2cdf 1:2cde 1:2ce1 1:2ce0 1:2ce3 1:2ce2
    8:2cec 1:2ceb 1:2cee 1:2ced 4:2cf3 1:2cf2 d:10a0 1:10a1 1:10a2 1:10a3 1:10a4 1:10a5 1:10a6
    1:10a7 1:10a8 1:10a9 1:10aa 1:10ab 1:10ac 1:10ad 1:10ae 1:10af 1:10b0 1:10b1 1:10b2 1:10b3
    1:10b4 1:10b5 1:10b6 1:10b7 1:10b8 1:10b9 1:10ba 1:10bb 1:10bc 1:10bd 1:10be 1:10bf 1:10c0
    1:10c1 1:10c2 1:10c3 1:10c4 1:10c5 2:10c7 6:10cd 7913:a641 1:a640 1:a643 1:a642 1:a645
    1:a644 1:a647 1:a646 1:a649 1:a648 1:1c88,a64b 1:1c88,a64a 1:a64d 1:a64c 1:a64f 1:a64e
    1:a651 1:a650 1:a653 1:a652 1:a655 1:a654 1:a657 1:a656 1:a659 1:a658 1:a65b 1:a65a 1:a65d
    1:a65c 1:a65f 1:a65e 1:a661 1:a660 1:a663 1:a662 1:a665 1:a664 1:a667 1:a666 1:a669 1:a668
    1:a66b 1:a66a 1:a66d 1:a66c 13:a681 1:a680 1:a683 1:a682 1:a685 1:a684 1:a687 1:a686 1:a689
    1:a688 1:a68b 1:a68a 1:a68d 1:a68c 1:a68f 1:a68e 1:a691 1:a690 1:a693 1:a692 1:a695 1:a694
    1:a697 1:a696 1:a699 1:a698 1:a69b 1:a69a 87:a723 1:a722 1:a725 1:a724 1:a727 1:a726 1:a729
    1:a728 1:a72b 1:a72a 1:a72d 1:a72c 1:a72f 1:a72e 3:a733 1:a732 1:a735 1:a734 1:a737 1:a736
    1:a739 1:a738 1:a73b 1:a73a 1:a73d 1:a73c 1:a73f 1:a73e 1:a741 1:a740 1:a743 1:a742 1:a745
    1:a744 1:a747 1:a746 1:a749 1:a748 1:a74b 1:a74a 1:a74d 1:a74c 1:a74f 1:a74e 1:a751 1:a750
    1:a753 1:a752 1:a755 1:a754 1:a757 1:a756 1:a759 1:a758 1:a75b 1:a75a 1:a75d 1:a75c 1:a75f
    1:a75e 1:a761 1:a760 1:a763 1:a762 1:a765 1:a764 1:a767 1:a766 1:a769 1:a768 1:a76b 1:a76a
    1:a76d 1:a76c 1:a76f 1:a76e a:a77a 1:a779 1:a77c 1:a77b 1:1d79 1:a77f 1:a77e 1:a781 1:a780
    1:a783 1:a782 1:a785 1:a784 1:a787 1:a786 4:a78c 1:a78b 1:265 3:a791 1:a790 1:a793 1:a792
    1:a7c4 2:a797 1:a796 1:a799 1:a798 1:a79b 1:a79a 1:a79d 1:a79c 1:a79f 1:a79e 1:a7a1 1:a7a0
    1:a7a3 1:a7a2 1:a7a5 1:a7a4 1:a7a7 1:a7a6 1:a7a9 1:a7a8 1:266 1:25c 1:261 1:26c 1:26a 2:29e
    1:287 1:29d 1:ab53 1:a7b5 1:a7b4 1:a7b7 1:a7b6 1:a7b9 1:a7b8 1:a7bb 1:a7ba 1:a7bd 1:a7bc
    1:a7bf 1:a7be 1:a7c1 1:a7c0 1:a7c3 1:a7c2 1:a794 1:282 1:1d8e 1:a7c8 1:a7c7 1:a7ca 1:a7c9
    1:264 1:a7cd 1:a7cc 3:a7d1 1:a7d0 5:a7d7 1:a7d6 1:a7d9 1:a7d8 1:a7db 1:a7da 1:19b 19:a7f6
    1:a7f5 35d:a7b3 1d:13a0 1:13a1 1:13a2 1:13a3 1:13a4 1:13a5 1:13a6 1:13a7 1:13a8 1:13a9
    1:13aa 1:13ab 1:13ac 1:13ad 1:13ae 1:13af 1:13b0 1:13b1 1:13b2 1:13b3 1:13b4 1:13b5 1:13b6
    1:13b7 1:13b8 1:13b9 1:13ba 1:13bb 1:13bc 1:13bd 1:13be 1:13bf 1:13c0 1:13c1 1:13c2 1:13c3
    1:13c4 1:13c5 1:13c6 1:13c7 1:13c8 1:13c9 1:13ca 1:13cb 1:13cc 1:13cd 1:13ce 1:13cf 1:13d0
    1:13d1 1:13d2 1:13d3 1:13d4 1:13d5 1:13d6 1:13d7 1:13d8 1:13d9 1:13da 1:13db 1:13dc 1:13dd
    1:13de 1:13df 1:13e0 1:13e1 1:13e2 1:13e3 1:13e4 1:13e5 1:13e6 1:13e7 1:13e8 1:13e9 1:13ea
    1:13eb 1:13ec 1:13ed 1:13ee 1:13ef 4f46:fb06 1:fb05 41b:ff41 1:ff42 1:ff43 1:ff44 1:ff45
    1:ff46 1:ff47 1:ff48 1:ff49 1:ff4a 1:ff4b 1:ff4c 1:ff4d 1:ff4e 1:ff4f 1:ff50 1:ff51 1:ff52
    1:ff53 1:ff54 1:ff55 1:ff56 1:ff57 1:ff58 1:ff59 1:ff5a 7:ff21 1:ff22 1:ff23 1:ff24 1:ff25
    1:ff26 1:ff27 1:ff28 1:ff29 1:ff2a 1:ff2b 1:ff2c 1:ff2d 1:ff2e 1:ff2f 1:ff30 1:ff31 1:ff32
    1:ff33 1:ff34 1:ff35 1:ff36 1:ff37 1:ff38 1:ff39 1:ff3a 4a6:10428 1:10429 1:1042a 1:1042b
    1:1042c 1:1042d 1:1042e 1:1042f 1:10430 1:10431 1:10432 1:10433 1:10434 1:10435 1:10436
    1:10437 1:10438 1:10439 1:1043a 1:1043b 1:1043c 1:1043d 1:1043e 1:1043f 1:10440 1:10441
    1:10442 1:10443 1:10444 1:10445 1:10446 1:10447 1:10448 1:10449 1:1044a 1:1044b 1:1044c
    1:1044d 1:1044e 1:1044f 1:10400 1:10401 1:10402 1:10403 1:10404 1:10405 1:10406 1:10407
    1:10408 1:10409 1:1040a 1:1040b 1:1040c 1:1040d 1:1040e 1:1040f 1:10410 1:10411 1:10412
    1:10413 1:10414 1:10415 1:10416 1:10417 1:10418 1:10419 1:1041a 1:1041b 1:1041c 1:1041d
    1:1041e 1:1041f 1:10420 1:10421 1:10422 1:10423 1:10424 1:10425 1:10426 1:10427 61:104d8
    1:104d9 1:104da 1:104db 1:104dc 1:104dd 1:104de 1:104df 1:104e0 1:104e1 1:104e2 1:104e3
    1:104e4 1:104e5 1:104e6 1:104e7 1:104e8 1:104e9 1:104ea 1:104eb 1:104ec 1:104ed 1:104ee
    1:104ef 1:104f0 1:104f1 1:104f2 1:104f3 1:104f4 1:104f5 1:104f6 1:104f7 1:104f8 1:104f9
    1:104fa 1:104fb 5:104b0 1:104b1 1:104b2 1:104b3 1:104b4 1:104b5 1:104b6 1:104b7 1:104b8
    1:104b9 1:104ba 1:104bb 1:104bc 1:104bd 1:104be 1:104bf 1:104c0 1:104c1 1:104c2 1:104c3
    1:104c4 1:104c5 1:104c6 1:104c7 1:104c8 1:104c9 1:104ca 1:104cb 1:104cc 1:104cd 1:104ce
    1:104cf 1:104d0 1:104d1 1:104d2 1:104d3 75:10597 1:10598 1:10599 1:1059a 1:1059b 1:1059c
    1:1059d 1:1059e 1:1059f 1:105a0 1:105a1 2:105a3 1:105a4 1:105a5 1:105a6 1:105a7 1:105a8
    1:105a9 1:105aa 1:105ab 1:105ac 1:105ad 1:105ae 1:105af 1:105b0 1:105b1 2:105b3 1:105b4
    1:105b5 1:105b6 1:105b7 1:105b8 1:105b9 2:105bb 1:105bc 2:10570 1:10571 1:10572 1:10573
    1:10574 1:10575 1:10576 1:10577 1:10578 1:10579 1:1057a 2:1057c 1:1057d 1:1057e 1:1057f
    1:10580 1:10581 1:10582 1:10583 1:10584 1:10585 1:10586 1:10587 1:10588 1:10589 1:1058a
    2:1058c 1:1058d 1:1058e 1:1058f 1:10590 1:10591 1:10592 2:10594 1:10595 6c4:10cc0 1:10cc1
    1:10cc2 1:10cc3 1:10cc4 1:10cc5 1:10cc6 1:10cc7 1:10cc8 1:10cc9 1:10cca 1:10ccb 1:10ccc
    1:10ccd 1:10cce 1:10ccf 1:10cd0 1:10cd1 1:10cd2 1:10cd3 1:10cd4 1:10cd5 1:10cd6 1:10cd7
    1:10cd8 1:10cd9 1:10cda 1:10cdb 1:10cdc 1:10cdd 1:10cde 1:10cdf 1:10ce0 1:10ce1 1:10ce2
    1:10ce3 1:10ce4 1:10ce5 1:10ce6 1:10ce7 1:10ce8 1:10ce9 1:10cea 1:10ceb 1:10cec 1:10ced
    1:10cee 1:10cef 1:10cf0 1:10cf1 1:10cf2 e:10c80 1:10c81 1:10c82 1:10c83 1:10c84 1:10c85
    1:10c86 1:10c87 1:10c88 1:10c89 1:10c8a 1:10c8b 1:10c8c 1:10c8d 1:10c8e 1:10c8f 1:10c90
    1:10c91 1:10c92 1:10c93 1:10c94 1:10c95 1:10c96 1:10c97 1:10c98 1:10c99 1:10c9a 1:10c9b
    1:10c9c 1:10c9d 1:10c9e 1:10c9f 1:10ca0 1:10ca1 1:10ca2 1:10ca3 1:10ca4 1:10ca5 1:10ca6
    1:10ca7 1:10ca8 1:10ca9 1:10caa 1:10cab 1:10cac 1:10cad 1:10cae 1:10caf 1:10cb0 1:10cb1
    1:10cb2 5e:10d70 1:10d71 1:10d72 1:10d73 1:10d74 1:10d75 1:10d76 1:10d77 1:10d78 1:10d79
    1:10d7a 1:10d7b 1:10d7c 1:10d7d 1:10d7e 1:10d7f 1:10d80 1:10d81 1:10d82 1:10d83 1:10d84
    1:10d85 b:10d50 1:10d51 1:10d52 1:10d53 1:10d54 1:10d55 1:10d56 1:10d57 1:10d58 1:10d59
    1:10d5a 1:10d5b 1:10d5c 1:10d5d 1:10d5e 1:10d5f 1:10d60 1:10d61 1:10d62 1:10d63 1:10d64
    1:10d65 b1b:118c0 1:118c1 1:118c2 1:118c3 1:118c4 1:118c5 1:118c6 1:118c7 1:118c8 1:118c9
    1:118ca 1:118cb 1:118cc 1:118cd 1:118ce 1:118cf 1:118d0 1:118d1 1:118d2 1:118d3 1:118d4
    1:118d5 1:118d6 1:118d7 1:118d8 1:118d9 1:118da 1:118db 1:118dc 1:118dd 1:118de 1:118df
    1:118a0 1:118a1 1:118a2 1:118a3 1:118a4 1:118a5 1:118a6 1:118a7 1:118a8 1:118a9 1:118aa
    1:118ab 1:118ac 1:118ad 1:118ae 1:118af 1:118b0 1:118b1 1:118b2 1:118b3 1:118b4 1:118b5
    1:118b6 1:118b7 1:118b8 1:118b9 1:118ba 1:118bb 1:118bc 1:118bd 1:118be 1:118bf 5561:16e60
    1:16e61 1:16e62 1:16e63 1:16e64 1:16e65 1:16e66 1:16e67 1:16e68 1:16e69 1:16e6a 1:16e6b
    1:16e6c 1:16e6d 1:16e6e 1:16e6f 1:16e70 1:16e71 1:16e72 1:16e73 1:16e74 1:16e75 1:16e76
    1:16e77 1:16e78 1:16e79 1:16e7a 1:16e7b 1:16e7c 1:16e7d 1:16e7e 1:16e7f 1:16e40 1:16e41
    1:16e42 1:16e43 1:16e44 1:16e45 1:16e46 1:16e47 1:16e48 1:16e49 1:16e4a 1:16e4b 1:16e4c
    1:16e4d 1:16e4e 1:16e4f 1:16e50 1:16e51 1:16e52 1:16e53 1:16e54 1:16e55 1:16e56 1:16e57
    1:16e58 1:16e59 1:16e5a 1:16e5b 1:16e5c 1:16e5d 1:16e5e 1:16e5f 7a81:1e922 1:1e923 1:1e924
    1:1e925 1:1e926 1:1e927 1:1e928 1:1e929 1:1e92a 1:1e92b 1:1e92c 1:1e92d 1:1e92e 1:1e92f
    1:1e930 1:1e931 1:1e932 1:1e933 1:1e934 1:1e935 1:1e936 1:1e937 1:1e938 1:1e939 1:1e93a
    1:1e93b 1:1e93c 1:1e93d 1:1e93e 1:1e93f 1:1e940 1:1e941 1:1e942 1:1e943 1:1e900 1:1e901
    1:1e902 1:1e903 1:1e904 1:1e905 1:1e906 1:1e907 1:1e908 1:1e909 1:1e90a 1:1e90b 1:1e90c
    1:1e90d 1:1e90e 1:1e90f 1:1e910 1:1e911 1:1e912 1:1e913 1:1e914 1:1e915 1:1e916 1:1e917
    1:1e918 1:1e919 1:1e91a 1:1e91b 1:1e91c 1:1e91d 1:1e91e 1:1e91f 1:1e920 1:1e921"

/-- The table read: code points in ascending order with the other members of their classes. -/
def caseTable : Array (Nat × List Nat) :=
  (words caseClasses).foldl
    (fun table entry =>
      match entry.splitOn ":" with
      | [step, others] =>
        let before := match table.back? with
          | some (code, _) => code
          | none => 0
        table.push (before + hexValue step, (others.splitOn ",").map hexValue)
      | _ => table)
    #[]

/-- The code points of the table. -/
def caseKeys : Array Nat := caseTable.map (·.1)

/-- The other characters that a character equals up to case. -/
def caseVariants (c : Char) : List Char :=
  let n := c.toNat
  match caseTable[(countUpTo caseKeys n) - 1]? with
  | some (code, others) => if code = n then others.map Char.ofNat else []
  | none => []

end RadarConform.Unicode
