import Rebac.Text.Packed

/-! # Combining characters, as data

The general category of marks and the canonical combining classes. Between the ends of a run may
also lie code points that are assigned to no character, or that stand for others. -/

namespace Rebac.Text

/-- The marks. -/
def markRuns : List Run :=
  packedRuns
    "300,36f 483,489 591,5bd 5bf 5c1,5c2 5c4,5c5 5c7 610,61a 64b,65f 670 6d6,6dc 6df,6e4 6e7,6e8
     6ea,6ed 711 730,74a 7a6,7b0 7eb,7f3 7fd 816,819 81b,823 825,827 829,82d 859,85b 897,89f
     8ca,903 93a,93c 93e,94f 951,957 962,963 981,983 9bc 9be,9cd 9d7 9e2,9e3 9fe,a03 a3c,a51
     a70,a71 a75 a81,a83 abc abe,acd ae2,ae3 afa,b03 b3c b3e,b57 b62,b63 b82 bbe,bcd bd7 c00,c04
     c3c c3e,c56 c62,c63 c81,c83 cbc cbe,cd6 ce2,ce3 cf3,d03 d3b,d3c d3e,d4d d57 d62,d63 d81,d83
     dca,ddf df2,df3 e31 e34,e3a e47,e4e eb1 eb4,ebc ec8,ece f18,f19 f35 f37 f39 f3e,f3f f71,f84
     f86,f87 f8d,fbc fc6 102b,103e 1056,1059 105e,1060 1062,1064 1067,106d 1071,1074 1082,108d
     108f 109a,109d 135d,135f 1712,1715 1732,1734 1752,1753 1772,1773 17b6,17d3 17dd 1885,1886
     18a9 1920,193b 1a17,1a1b 1a55,1a7f 1ab0,1b04 1b34,1b44 1b6b,1b73 1b80,1b82 1ba1,1bad
     1be6,1bf3 1c24,1c37 1cd0,1cd2 1cd4,1ce8 1ced 1cf4 1cf7,1cf9 1dc0,1dff 20d0,20f0 2cef,2cf1
     2d7f 2de0,2dff 302a,302f 3099,309a a66f,a672 a674,a67d a69e,a69f a6f0,a6f1 a802 a806 a80b
     a823,a827 a82c a880,a881 a8b4,a8c5 a8e0,a8f1 a8ff a926,a92d a947,a953 a980,a983 a9b3,a9c0
     a9e5 aa29,aa36 aa43 aa4c,aa4d aa7b,aa7d aab0 aab2,aab4 aab7,aab8 aabe,aabf aac1 aaeb,aaef
     aaf5,aaf6 abe3,abea abec,abed fb1e fe20,fe2f 101fd 102e0 10376,1037a 10a01,10a0f 10a38,10a3f
     10ae5,10ae6 10d24,10d27 10d69,10d6d 10eab,10eac 10efa,10eff 10f46,10f50 10f82,10f85
     11000,11002 11038,11046 11070 11073,11074 1107f,11082 110b0,110ba 110c2 11100,11102
     11127,11134 11145,11146 11173 11180,11182 111b3,111c0 111c9,111cc 111ce,111cf 1122c,11237
     1123e 11241 112df,112ea 11300,11303 1133b,1133c 1133e,1134d 11357 11362,11374 113b8,113d0
     113d2 113e1,113e2 11435,11446 1145e 114b0,114c3 115af,115c0 115dc,115dd 11630,11640
     116ab,116b7 1171d,1172b 1182c,1183a 11930,1193e 11940 11942,11943 119d1,119e0 119e4
     11a01,11a0a 11a33,11a39 11a3b,11a3e 11a47 11a51,11a5b 11a8a,11a99 11b60,11b67 11c2f,11c3f
     11c92,11cb6 11d31,11d45 11d47 11d8a,11d97 11ef3,11ef6 11f00,11f01 11f03 11f34,11f42 11f5a
     13440 13447,13455 1611e,1612f 16af0,16af4 16b30,16b36 16f4f 16f51,16f92 16fe4,16ff1
     1bc9d,1bc9e 1cf00,1cf46 1d165,1d169 1d16d,1d182 1d185,1d18b 1d1aa,1d1ad 1d242,1d244
     1da00,1da36 1da3b,1da6c 1da75 1da84 1da9b,1daaf 1e000,1e08f 1e130,1e136 1e2ae 1e2ec,1e2ef
     1e4ec,1e4ef 1e5ee,1e5ef 1e6e3 1e6e6 1e6ee,1e6ef 1e6f5 1e8d0,1e8d6 1e944,1e94a"

/-- The combining classes other than zero: rows of a class, and of the first and the last code point
of a run. -/
def combiningClassRows : List (List Nat) :=
  packedRows
    "1,334,338 1,1cd4,1cd4 1,1ce2,1ce8 1,20d2,20d3 1,20d8,20da 1,20e5,20e6 1,20ea,20eb
     1,10a39,10a39 1,16af0,16af4 1,1bc9e,1bc9e 1,1d167,1d169 6,16ff0,16ff1 7,93c,93c 7,9bc,9bc
     7,a3c,a3c 7,abc,abc 7,b3c,b3c 7,c3c,c3c 7,cbc,cbc 7,1037,1037 7,1b34,1b34 7,1be6,1be6
     7,1c37,1c37 7,a9b3,a9b3 7,110ba,110ba 7,11173,11173 7,111ca,111ca 7,11236,11236 7,112e9,112e9
     7,1133b,1133c 7,11446,11446 7,114c3,114c3 7,115c0,115c0 7,116b7,116b7 7,1183a,1183a
     7,11943,11943 7,11d42,11d42 7,1e94a,1e94a 8,3099,309a 9,94d,94d 9,9cd,9cd 9,a4d,a4d 9,acd,acd
     9,b4d,b4d 9,bcd,bcd 9,c4d,c4d 9,ccd,ccd 9,d3b,d3c 9,d4d,d4d 9,dca,dca 9,e3a,e3a 9,eba,eba
     9,f84,f84 9,1039,103a 9,1714,1715 9,1734,1734 9,17d2,17d2 9,1a60,1a60 9,1b44,1b44 9,1baa,1bab
     9,1bf2,1bf3 9,2d7f,2d7f 9,a806,a806 9,a82c,a82c 9,a8c4,a8c4 9,a953,a953 9,a9c0,a9c0
     9,aaf6,aaf6 9,abed,abed 9,10a3f,10a3f 9,11046,11046 9,11070,11070 9,1107f,1107f 9,110b9,110b9
     9,11133,11134 9,111c0,111c0 9,11235,11235 9,112ea,112ea 9,1134d,1134d 9,113ce,113d0
     9,11442,11442 9,114c2,114c2 9,115bf,115bf 9,1163f,1163f 9,116b6,116b6 9,1172b,1172b
     9,11839,11839 9,1193d,1193e 9,119e0,119e0 9,11a34,11a34 9,11a47,11a47 9,11a99,11a99
     9,11c3f,11c3f 9,11d44,11d45 9,11d97,11d97 9,11f41,11f42 9,1612f,1612f a,5b0,5b0 b,5b1,5b1
     c,5b2,5b2 d,5b3,5b3 e,5b4,5b4 f,5b5,5b5 10,5b6,5b6 11,5b7,5b7 12,5b8,5b8 12,5c7,5c7
     13,5b9,5ba 14,5bb,5bb 15,5bc,5bc 16,5bd,5bd 17,5bf,5bf 18,5c1,5c1 19,5c2,5c2 1a,fb1e,fb1e
     1b,64b,64b 1b,8f0,8f0 1c,64c,64c 1c,8f1,8f1 1d,64d,64d 1d,8f2,8f2 1e,618,618 1e,64e,64e
     1f,619,619 1f,64f,64f 20,61a,61a 20,650,650 21,651,651 22,652,652 23,670,670 24,711,711
     54,c55,c55 5b,c56,c56 67,e38,e39 6b,e48,e4b 76,eb8,eb9 7a,ec8,ecb 81,f71,f71 82,f72,f72
     82,f7a,f7d 82,f80,f80 84,f74,f74 ca,321,322 ca,327,328 ca,1dd0,1dd0 d6,1dce,1dce d8,31b,31b
     d8,f39,f39 d8,1d165,1d166 d8,1d16e,1d172 da,1dfa,1dfa da,302a,302a dc,316,319 dc,31c,320
     dc,323,326 dc,329,333 dc,339,33c dc,347,349 dc,34d,34e dc,353,356 dc,359,35a dc,591,591
     dc,596,596 dc,59b,59b dc,5a2,5a7 dc,5aa,5aa dc,5c5,5c5 dc,655,656 dc,65c,65c dc,65f,65f
     dc,6e3,6e3 dc,6ea,6ea dc,6ed,6ed dc,731,731 dc,734,734 dc,737,739 dc,73b,73c dc,73e,73e
     dc,742,742 dc,744,744 dc,746,746 dc,748,748 dc,7f2,7f2 dc,7fd,7fd dc,859,85b dc,899,89b
     dc,8cf,8d3 dc,8e3,8e3 dc,8e6,8e6 dc,8e9,8e9 dc,8ed,8ef dc,8f6,8f6 dc,8f9,8fa dc,952,952
     dc,f18,f19 dc,f35,f35 dc,f37,f37 dc,fc6,fc6 dc,108d,108d dc,193b,193b dc,1a18,1a18
     dc,1a7f,1a7f dc,1ab5,1aba dc,1abd,1abd dc,1abf,1ac0 dc,1ac3,1ac4 dc,1aca,1aca dc,1add,1add
     dc,1b6c,1b6c dc,1cd5,1cd9 dc,1cdc,1cdf dc,1ced,1ced dc,1dc2,1dc2 dc,1dca,1dca dc,1dcf,1dcf
     dc,1df9,1df9 dc,1dfd,1dfd dc,1dff,1dff dc,20e8,20e8 dc,20ec,20ef dc,a92b,a92d dc,aab4,aab4
     dc,fe27,fe2d dc,101fd,101fd dc,102e0,102e0 dc,10a0d,10a0d dc,10a3a,10a3a dc,10ae6,10ae6
     dc,10efa,10efb dc,10efd,10eff dc,10f46,10f47 dc,10f4b,10f4b dc,10f4d,10f50 dc,10f83,10f83
     dc,10f85,10f85 dc,1d17b,1d182 dc,1d18a,1d18b dc,1e4ee,1e4ee dc,1e5ef,1e5ef dc,1e8d0,1e8d6
     de,59a,59a de,5ad,5ad de,1939,1939 de,302d,302d e0,302e,302f e2,1d16d,1d16d e4,5ae,5ae
     e4,18a9,18a9 e4,1df7,1df8 e4,302b,302b e6,300,314 e6,33d,346 e6,34a,34c e6,350,352 e6,357,357
     e6,35b,35b e6,363,36f e6,483,487 e6,592,595 e6,597,599 e6,59c,5a1 e6,5a8,5a9 e6,5ab,5ac
     e6,5af,5af e6,5c4,5c4 e6,610,617 e6,653,654 e6,657,65b e6,65d,65e e6,6d6,6dc e6,6df,6e2
     e6,6e4,6e4 e6,6e7,6e8 e6,6eb,6ec e6,730,730 e6,732,733 e6,735,736 e6,73a,73a e6,73d,73d
     e6,73f,741 e6,743,743 e6,745,745 e6,747,747 e6,749,74a e6,7eb,7f1 e6,7f3,7f3 e6,816,819
     e6,81b,823 e6,825,827 e6,829,82d e6,897,898 e6,89c,89f e6,8ca,8ce e6,8d4,8e1 e6,8e4,8e5
     e6,8e7,8e8 e6,8ea,8ec e6,8f3,8f5 e6,8f7,8f8 e6,8fb,8ff e6,951,951 e6,953,954 e6,9fe,9fe
     e6,f82,f83 e6,f86,f87 e6,135d,135f e6,17dd,17dd e6,193a,193a e6,1a17,1a17 e6,1a75,1a7c
     e6,1ab0,1ab4 e6,1abb,1abc e6,1ac1,1ac2 e6,1ac5,1ac9 e6,1acb,1adc e6,1ae0,1aeb e6,1b6b,1b6b
     e6,1b6d,1b73 e6,1cd0,1cd2 e6,1cda,1cdb e6,1ce0,1ce0 e6,1cf4,1cf4 e6,1cf8,1cf9 e6,1dc0,1dc1
     e6,1dc3,1dc9 e6,1dcb,1dcc e6,1dd1,1df5 e6,1dfb,1dfb e6,1dfe,1dfe e6,20d0,20d1 e6,20d4,20d7
     e6,20db,20dc e6,20e1,20e1 e6,20e7,20e7 e6,20e9,20e9 e6,20f0,20f0 e6,2cef,2cf1 e6,2de0,2dff
     e6,a66f,a66f e6,a674,a67d e6,a69e,a69f e6,a6f0,a6f1 e6,a8e0,a8f1 e6,aab0,aab0 e6,aab2,aab3
     e6,aab7,aab8 e6,aabe,aabf e6,aac1,aac1 e6,fe20,fe26 e6,fe2e,fe2f e6,10376,1037a
     e6,10a0f,10a0f e6,10a38,10a38 e6,10ae5,10ae5 e6,10d24,10d27 e6,10d69,10d6d e6,10eab,10eac
     e6,10f48,10f4a e6,10f4c,10f4c e6,10f82,10f82 e6,10f84,10f84 e6,11100,11102 e6,11366,11374
     e6,113e1,113e2 e6,1145e,1145e e6,16b30,16b36 e6,1d185,1d189 e6,1d1aa,1d1ad e6,1d242,1d244
     e6,1e000,1e08f e6,1e130,1e136 e6,1e2ae,1e2ae e6,1e2ec,1e2ef e6,1e4ef,1e4ef e6,1e5ee,1e5ee
     e6,1e6e3,1e6e3 e6,1e6e6,1e6e6 e6,1e6ee,1e6ef e6,1e6f5,1e6f5 e6,1e944,1e949 e8,315,315
     e8,31a,31a e8,358,358 e8,1df6,1df6 e8,302c,302c e8,1e4ec,1e4ed e9,35c,35c e9,35f,35f
     e9,362,362 e9,1dfc,1dfc ea,35d,35e ea,360,361 ea,1dcd,1dcd"

end Rebac.Text
