/-!
# Tables for domain names

Four properties of code points, written as ranges.  The mapping table has an
exclamation mark for a character that may not stand in a domain name, a hyphen
for one that is left out, and for all others that are changed the code points
that stand in their place.  If a range of several characters is changed, its
value is for the first of them, and those of the others follow.
-/

namespace PageExtract.Url

/-- How characters are changed in domain names. -/
def mappingTable : String :=
  "41.1a=61 25.20=! =20 7=20,308 1=61 2=- 1=20,304 2.2=32 =20,301 =3bc 2=20,327 =31 =6f
    1=31,2044,34 =31,2044,32 =33,2044,34 1.17=e0 1.7=f8 21=101 1=103 1=105 1=107 1=109 1=10b 1=10d
    1=10f 1=111 1=113 1=115 1=117 1=119 1=11b 1=11d 1=11f 1=121 1=123 1=125 1=127 1=129 1=12b 1=12d
    1=12f 1=69,307 1=69,6a =69,6a =135 1=137 2=13a 1=13c 1=13e 1=6c,b7 =6c,b7 =142 1=144 1=146 1=148
    1=2bc,6e =14b 1=14d 1=14f 1=151 1=153 1=155 1=157 1=159 1=15b 1=15d 1=15f 1=161 1=163 1=165
    1=167 1=169 1=16b 1=16d 1=16f 1=171 1=173 1=175 1=177 1=ff =17a 1=17c 1=17e 1=73 1=253 =183
    1=185 1=254 =188 1.2=256 =18c 2=1dd =259 =25b =192 1=260 =263 1=269 =268 =199 3=26f =272 1=275
    =1a1 1=1a3 1=1a5 1=280 =1a8 1=283 2=1ad 1=288 =1b0 1.2=28a =1b4 1=1b6 1=292 =1b9 3=1bd 7=64,17e
    =64,17e =64,17e =6c,6a =6c,6a =6c,6a =6e,6a =6e,6a =6e,6a =1ce 1=1d0 1=1d2 1=1d4 1=1d6 1=1d8
    1=1da 1=1dc 2=1df 1=1e1 1=1e3 1=1e5 1=1e7 1=1e9 1=1eb 1=1ed 1=1ef 2=64,7a =64,7a =64,7a =1f5
    1=195 =1bf =1f9 1=1fb 1=1fd 1=1ff 1=201 1=203 1=205 1=207 1=209 1=20b 1=20d 1=20f 1=211 1=213
    1=215 1=217 1=219 1=21b 1=21d 1=21f 1=19e 1=223 1=225 1=227 1=229 1=22b 1=22d 1=22f 1=231 1=233
    7=2c65 =23c 1=19a =2c66 2=242 1=180 =289 =28c =247 1=249 1=24b 1=24d 1=24f 61=68 =266 =6a =72
    =279 =27b =281 =77 =79 1f=20,306 =20,307 =20,30a =20,328 =20,303 =20,30b 2=263 =6c =73 =78 =295
    5b.2=300 1=313 =308,301 =3b9 9=- 20=371 1=373 1=2b9 1=377 1.2=! =20,3b9 3=3b =3f3 .4=! =20,301
    =20,308,301 =3ac =b7 .3=3ad =! =3cc =! .2=3cd 1.11=3b1 =! .9=3c3 23=3d7 =3b2 =3b8 =3c5 =3cd =3cb
    =3c6 =3c0 1=3d9 1=3db 1=3dd 1=3df 1=3e1 1=3e3 1=3e5 1=3e7 1=3e9 1=3eb 1=3ed 1=3ef 1=3ba =3c1
    =3c3 1=3b8 =3b5 1=3f8 1=3c3 =3fb 2.3=37b .10=450 .20=430 30=461 1=463 1=465 1=467 1=469 1=46b
    1=46d 1=46f 1=471 1=473 1=475 1=477 1=479 1=47b 1=47d 1=47f 1=481 9=48b 1=48d 1=48f 1=491 1=493
    1=495 1=497 1=499 1=49b 1=49d 1=49f 1=4a1 1=4a3 1=4a5 1=4a7 1=4a9 1=4ab 1=4ad 1=4af 1=4b1 1=4b3
    1=4b5 1=4b7 1=4b9 1=4bb 1=4bd 1=4bf 1=! =4c2 1=4c4 1=4c6 1=4c8 1=4ca 1=4cc 1=4ce 2=4d1 1=4d3
    1=4d5 1=4d7 1=4d9 1=4db 1=4dd 1=4df 1=4e1 1=4e3 1=4e5 1=4e7 1=4e9 1=4eb 1=4ed 1=4ef 1=4f1 1=4f3
    1=4f5 1=4f7 1=4f9 1=4fb 1=4fd 1=4ff 1=501 1=503 1=505 1=507 1=509 1=50b 1=50d 1=50f 1=511 1=513
    1=515 1=517 1=519 1=51b 1=51d 1=51f 1=521 1=523 1=525 1=527 1=529 1=52b 1=52d 1=52f 1=! .26=561
    .2=! 2e=565,582 3.2=! 3=! 37.8=! 1b.4=! 6.11=! 16=! 58=627,674 =648,674 =6c7,674 =64a,674 64=!
    30.2=! 3b.2=! 65.e=! 3b.2=! 31.2=! f=! 1c.2=! 1=! b.5=! 1f.9=! 4a=! 75=915,93c =916,93c =917,93c
    =91c,93c =921,93c =922,93c =92b,93c =92f,93c 24=! 8.2=! 2.2=! 16=! 7=! 1.3=! 4.2=! 9.2=! 2.2=!
    4.8=! 1.4=! =9a1,9bc =9a2,9bc =! =9af,9bc 4.2=! 19.2=! 3=! 6.4=! 2.2=! 16=! 7=! 1=a32,a3c =!
    1=a38,a3c =! 2.2=! 1=! 5.4=! 2.2=! 3.3=! 1.7=! =a16,a3c =a17,a3c =a1c,a3c 1=! =a2b,a3c .7=!
    11.a=! 3=! 9=! 3=! 16=! 7=! 2=! 5.2=! a=! 3=! 3.2=! 1.f=! 4.2=! c.7=! 7=! 3=! 8.2=! 2.2=! 16=!
    7=! 2=! 5.2=! 9.2=! 2.2=! 3.7=! 3.4=! =b21,b3c =b22,b3c =! 5.2=! 12.a=! 2=! 6.3=! 3=! 4.3=! 2=!
    1=! 2.3=! 2.3=! 3.3=! c.4=! 5.3=! 3=! 4.2=! 1.6=! 1.e=! 15.5=! d=! 3=! 17=! 10.2=! 9=! 3=! 4.7=!
    2=! 3.2=! 1.2=! 4.2=! a.7=! 16=! 3=! 17=! a=! 5.2=! 9=! 3=! 4.7=! 2.6=! 2=! 4.2=! a=! 3.c=! d=!
    3=! 33=! 3=! 6.4=! 10.2=! 1a=! 3=! 12.3=! 18=! 9=! 1.2=! 7.3=! 1.4=! 6=! 1=! 8.6=! a.2=! 3.c=!
    32=e4d,e32 7.4=! 1d.25=! 2=! 1=! 5=! 18=! 1=! c=ecd,eb2 a.2=! 5=! 1=! 7=! a.2=! =eab,e99
    =eab,ea1 2.20=! c=f0b 36=f42,fb7 4=! 4=f4c,fb7 4=f51,fb7 4=f56,fb7 4=f5b,fb7 c=f40,fb5 3.4=!
    2=f71,f72 1=f71,f74 =fb2,f80 =fb2,f71,f80 =fb3,f80 =fb3,f71,f80 7=f71,f80 11=f92,fb7 4=!
    4=f9c,fb7 4=fa1,fb7 4=fa6,fb7 4=fab,fb7 c=f90,fb5 3=! f=! d.25=! a0.27=! =2d27 .5=! =2d2d .2=!
    2c=10dc 62.2=! e8=! 4.2=! 7=! 1=! 4.2=! 29=! 4.2=! 21=! 4.2=! 7=! 1=! 4.2=! f=! 39=! 4.2=!
    43.2=! 20.3=! 1a.6=! 56.2=! .6=13f0 .2=! 280=! 1c.3=! 59.7=! 16.9=! 18.9=! 14.c=! d=! 3=! 2.c=!
    34.2=! 28.2=! a.6=! a.6=! 6=! 4.3=- =! =- a.6=! 59.7=! 2b.5=! 46.a=! 1f=! c.4=! c.4=! 1.3=!
    2a.2=! 5.b=! 2c.4=! 1a.6=! b.3=! 3e.2=! 41=! 1d.2=! b.6=! a.6=! e.2=! 1f.31=! 4d.3=! 2f=! 74.8=!
    3c.3=! f.3=! 33=432 =434 =43e .2=441 =442 =44a =463 =a64b .7=! .2b=10d0 .2=! .3=10fd 8.8=!
    2b.5=! 2c=61 =e6 =62 1.2=64 =1dd .8=67 1=6f =223 =70 =72 .2=74 =77 =61 .2=250 =1d02 =62 .2=64
    =259 .2=25b =67 1=6b =6d =14b =6f =254 .2=1d16 =70 .2=74 =1d1d =26f =76 =1d25 .3=3b2 .2=3c6 =69
    =72 .2=75 .2=3b2 =3c1 .2=3c6 d=43d 22=252 =63 =255 =f0 =25c =66 =25f =261 =265 .3=268 =1d7b =29d
    =26d =1d85 =29f =271 =270 .4=272 =278 .2=282 =1ab .2=289 =1d1c .2=28b =7a .3=290 =3b8 40=1e01
    1=1e03 1=1e05 1=1e07 1=1e09 1=1e0b 1=1e0d 1=1e0f 1=1e11 1=1e13 1=1e15 1=1e17 1=1e19 1=1e1b
    1=1e1d 1=1e1f 1=1e21 1=1e23 1=1e25 1=1e27 1=1e29 1=1e2b 1=1e2d 1=1e2f 1=1e31 1=1e33 1=1e35
    1=1e37 1=1e39 1=1e3b 1=1e3d 1=1e3f 1=1e41 1=1e43 1=1e45 1=1e47 1=1e49 1=1e4b 1=1e4d 1=1e4f
    1=1e51 1=1e53 1=1e55 1=1e57 1=1e59 1=1e5b 1=1e5d 1=1e5f 1=1e61 1=1e63 1=1e65 1=1e67 1=1e69
    1=1e6b 1=1e6d 1=1e6f 1=1e71 1=1e73 1=1e75 1=1e77 1=1e79 1=1e7b 1=1e7d 1=1e7f 1=1e81 1=1e83
    1=1e85 1=1e87 1=1e89 1=1e8b 1=1e8d 1=1e8f 1=1e91 1=1e93 1=1e95 5=61,2be =1e61 2=73,73 1=1ea1
    1=1ea3 1=1ea5 1=1ea7 1=1ea9 1=1eab 1=1ead 1=1eaf 1=1eb1 1=1eb3 1=1eb5 1=1eb7 1=1eb9 1=1ebb
    1=1ebd 1=1ebf 1=1ec1 1=1ec3 1=1ec5 1=1ec7 1=1ec9 1=1ecb 1=1ecd 1=1ecf 1=1ed1 1=1ed3 1=1ed5
    1=1ed7 1=1ed9 1=1edb 1=1edd 1=1edf 1=1ee1 1=1ee3 1=1ee5 1=1ee7 1=1ee9 1=1eeb 1=1eed 1=1eef
    1=1ef1 1=1ef3 1=1ef5 1=1ef7 1=1ef9 1=1efb 1=1efd 1=1eff 9.8=1f00 6.2=! .6=1f10 .2=! 8.8=1f20
    8.8=1f30 6.2=! .6=1f40 .2=! 8=! =1f51 =! =1f53 =! =1f55 =! =1f57 8.8=1f60 1=3ac 1=3ad 1=3ae
    1=3af 1=3cc 1=3cd 1=3ce .2=! =1f00,3b9 =1f01,3b9 =1f02,3b9 =1f03,3b9 =1f04,3b9 =1f05,3b9
    =1f06,3b9 =1f07,3b9 =1f00,3b9 =1f01,3b9 =1f02,3b9 =1f03,3b9 =1f04,3b9 =1f05,3b9 =1f06,3b9
    =1f07,3b9 =1f20,3b9 =1f21,3b9 =1f22,3b9 =1f23,3b9 =1f24,3b9 =1f25,3b9 =1f26,3b9 =1f27,3b9
    =1f20,3b9 =1f21,3b9 =1f22,3b9 =1f23,3b9 =1f24,3b9 =1f25,3b9 =1f26,3b9 =1f27,3b9 =1f60,3b9
    =1f61,3b9 =1f62,3b9 =1f63,3b9 =1f64,3b9 =1f65,3b9 =1f66,3b9 =1f67,3b9 =1f60,3b9 =1f61,3b9
    =1f62,3b9 =1f63,3b9 =1f64,3b9 =1f65,3b9 =1f66,3b9 =1f67,3b9 2=1f70,3b9 =3b1,3b9 =3ac,3b9 =!
    1=1fb6,3b9 .2=1fb0 =1f70 =3ac =3b1,3b9 =20,313 =3b9 =20,313 =20,342 =20,308,342 =1f74,3b9
    =3b7,3b9 =3ae,3b9 =! 1=1fc6,3b9 =1f72 =3ad =1f74 =3ae =3b7,3b9 =20,313,300 =20,313,301
    =20,313,342 3=390 .2=! 2.2=1fd0 =1f76 =3af =! =20,314,300 =20,314,301 =20,314,342 3=3b0 4.2=1fe0
    =1f7a =3cd =1fe5 =20,308,300 =20,308,301 =60 .2=! =1f7c,3b9 =3c9,3b9 =3ce,3b9 =! 1=1ff6,3b9
    =1f78 =3cc =1f7c =3ce =3c9,3b9 =20,301 =20,314 =! =20 =20 =20 =20 =20 =20 =20 =20 =20 =20 =20 =-
    2.2=! 1=2010 5=20,333 c.3=! 1.7=! =20 3=2032,2032 =2032,2032,2032 1=2035,2035 =2035,2035,2035
    4=21,21 1=20,305 8=3f,3f =3f,21 =21,3f d=2032,2032,2032,2032 7=20 =- .3=! =- .b=! =30 =69 .2=!
    .6=34 =2b =2212 =3d .2=28 =6e .a=30 =2b =2212 =3d .2=28 =! =61 =65 =6f =78 =259 =68 .4=6b =70
    .2=73 .3=! 8=72,73 18.f=! 21.f=! =61,2f,63 =61,2f,73 =63 =b0,63 1=63,2f,6f =63,2f,75 =25b
    1=b0,66 .2=67 =68 =68 =68 =127 =69 =69 =6c =6c 1=6e =6e,6f 2.3=70 =72 =72 2=73,6d =74,65,6c
    =74,6d 1=7a 1=3c9 1=7a 1=6b =e5 .2=62 1=65 .2=65 =! =6d =6f .4=5d0 =69 1=66,61,78 =3c0 =3b3 =3b3
    =3c0 =2211 4=64 .2=64 .2=69 6=31,2044,37 =31,2044,39 =31,2044,31,30 =31,2044,33 =32,2044,33
    =31,2044,35 =32,2044,35 =33,2044,35 =34,2044,35 =31,2044,36 =35,2044,36 =31,2044,38 =33,2044,38
    =35,2044,38 =37,2044,38 =31,2044 =69 =69,69 =69,69,69 =69,76 =76 =76,69 =76,69,69 =76,69,69,69
    =69,78 =78 =78,69 =78,69,69 =6c .2=63 =6d =69 =69,69 =69,69,69 =69,76 =76 =76,69 =76,69,69
    =76,69,69,69 =69,78 =78 =78,69 =78,69,69 =6c .2=63 =6d 3=! 5=30,2044,33 2.4=! 9c=222b,222b
    =222b,222b,222b 1=222e,222e =222e,222e,222e f8.2=3008 fc.19=! b.15=! .9=31 =31,30 =31,31 =31,32
    =31,33 =31,34 =31,35 =31,36 =31,37 =31,38 =31,39 =32,30 =28,31,29 =28,32,29 =28,33,29 =28,34,29
    =28,35,29 =28,36,29 =28,37,29 =28,38,29 =28,39,29 =28,31,30,29 =28,31,31,29 =28,31,32,29
    =28,31,33,29 =28,31,34,29 =28,31,35,29 =28,31,36,29 =28,31,37,29 =28,31,38,29 =28,31,39,29
    =28,32,30,29 .14=! =28,61,29 =28,62,29 =28,63,29 =28,64,29 =28,65,29 =28,66,29 =28,67,29
    =28,68,29 =28,69,29 =28,6a,29 =28,6b,29 =28,6c,29 =28,6d,29 =28,6e,29 =28,6f,29 =28,70,29
    =28,71,29 =28,72,29 =28,73,29 =28,74,29 =28,75,29 =28,76,29 =28,77,29 =28,78,29 =28,79,29
    =28,7a,29 .1a=61 .1a=61 =30 521=222b,222b,222b,222b 67=3a,3a,3d =3d,3d =3d,3d,3d 65=2add,338
    97.2=! 20=! 69.30=2c30 30=2c61 1=26b =1d7d =27d 2=2c68 1=2c6a 1=2c6c 1=251 =271 =250 =252 1=2c73
    2=2c76 6=6a =76 .2=23f =2c81 1=2c83 1=2c85 1=2c87 1=2c89 1=2c8b 1=2c8d 1=2c8f 1=2c91 1=2c93
    1=2c95 1=2c97 1=2c99 1=2c9b 1=2c9d 1=2c9f 1=2ca1 1=2ca3 1=2ca5 1=2ca7 1=2ca9 1=2cab 1=2cad
    1=2caf 1=2cb1 1=2cb3 1=2cb5 1=2cb7 1=2cb9 1=2cbb 1=2cbd 1=2cbf 1=2cc1 1=2cc3 1=2cc5 1=2cc7
    1=2cc9 1=2ccb 1=2ccd 1=2ccf 1=2cd1 1=2cd3 1=2cd5 1=2cd7 1=2cd9 1=2cdb 1=2cdd 1=2cdf 1=2ce1
    1=2ce3 8=2cec 1=2cee 4=2cf3 1.5=! 2d=! 1.5=! 1.2=! 38.7=! =2d61 1.e=! 18.9=! 7=! 7=! 7=! 7=! 7=!
    7=! 7=! 7=! 7e.22=! 1a=! 4=6bcd 53=9f9f .c=! =4e00 =4e28 =4e36 =4e3f =4e59 =4e85 =4e8c =4ea0
    =4eba =513f =5165 =516b =5182 =5196 =51ab =51e0 =51f5 =5200 =529b =52f9 =5315 =531a =5338 =5341
    =535c =5369 =5382 =53b6 =53c8 =53e3 =56d7 =571f =58eb =5902 =590a =5915 =5927 =5973 =5b50 =5b80
    =5bf8 =5c0f =5c22 =5c38 =5c6e =5c71 =5ddb =5de5 =5df1 =5dfe =5e72 =5e7a =5e7f =5ef4 =5efe =5f0b
    =5f13 =5f50 =5f61 =5f73 =5fc3 =6208 =6236 =624b =652f =6534 =6587 =6597 =65a4 =65b9 =65e0 =65e5
    =66f0 =6708 =6728 =6b20 =6b62 =6b79 =6bb3 =6bcb =6bd4 =6bdb =6c0f =6c14 =6c34 =706b =722a =7236
    =723b =723f =7247 =7259 =725b =72ac =7384 =7389 =74dc =74e6 =7518 =751f =7528 =7530 =758b =7592
    =7676 =767d =76ae =76bf =76ee =77db =77e2 =77f3 =793a =79b8 =79be =7a74 =7acb =7af9 =7c73 =7cf8
    =7f36 =7f51 =7f8a =7fbd =8001 =800c =8012 =8033 =807f =8089 =81e3 =81ea =81f3 =81fc =820c =821b
    =821f =826e =8272 =8278 =864d =866b =8840 =884c =8863 =897e =898b =89d2 =8a00 =8c37 =8c46 =8c55
    =8c78 =8c9d =8d64 =8d70 =8db3 =8eab =8eca =8f9b =8fb0 =8fb5 =9091 =9149 =91c6 =91cc =91d1 =9577
    =9580 =961c =96b6 =96b9 =96e8 =9751 =975e =9762 =9769 =97cb =97ed =97f3 =9801 =98a8 =98db =98df
    =9996 =9999 =99ac =9aa8 =9ad8 =9adf =9b25 =9b2f =9b32 =9b3c =9b5a =9ce5 =9e75 =9e7f =9ea5 =9ebb
    =9ec3 =9ecd =9ed1 =9ef9 =9efd =9f0e =9f13 =9f20 =9f3b =9f4a =9f52 =9f8d =9f9c =9fa0 .2a=! =20
    1=2e 33=3012 1=5341 .2=5344 5=! 56.2=! 2=20,3099 =20,309a 2=3088,308a 5f=30b3,30c8 .5=! 2b=!
    .2=1100 =11aa =1102 .2=11ac .3=1103 .6=11b0 =111a .3=1106 =1121 .a=1109 .15=1161 =! .2=1114
    .2=11c7 =11cc =11ce =11d3 =11d7 =11d9 =111c =11dd =11df .2=111d =1120 .2=1122 =1127 =1129
    .5=112b =1132 =1136 =1140 =1147 =114c .2=11f1 .3=1157 .2=1184 =1188 .2=1191 =1194 =119e =11a1 =!
    2=4e00 =4e8c =4e09 =56db =4e0a =4e2d =4e0b =7532 =4e59 =4e19 =4e01 =5929 =5730 =4eba 44.c=!
    10=28,1100,29 =28,1102,29 =28,1103,29 =28,1105,29 =28,1106,29 =28,1107,29 =28,1109,29
    =28,110b,29 =28,110c,29 =28,110e,29 =28,110f,29 =28,1110,29 =28,1111,29 =28,1112,29 =28,ac00,29
    =28,b098,29 =28,b2e4,29 =28,b77c,29 =28,b9c8,29 =28,bc14,29 =28,c0ac,29 =28,c544,29 =28,c790,29
    =28,cc28,29 =28,ce74,29 =28,d0c0,29 =28,d30c,29 =28,d558,29 =28,c8fc,29 =28,c624,c804,29
    =28,c624,d6c4,29 =! =28,4e00,29 =28,4e8c,29 =28,4e09,29 =28,56db,29 =28,4e94,29 =28,516d,29
    =28,4e03,29 =28,516b,29 =28,4e5d,29 =28,5341,29 =28,6708,29 =28,706b,29 =28,6c34,29 =28,6728,29
    =28,91d1,29 =28,571f,29 =28,65e5,29 =28,682a,29 =28,6709,29 =28,793e,29 =28,540d,29 =28,7279,29
    =28,8ca1,29 =28,795d,29 =28,52b4,29 =28,4ee3,29 =28,547c,29 =28,5b66,29 =28,76e3,29 =28,4f01,29
    =28,8cc7,29 =28,5354,29 =28,796d,29 =28,4f11,29 =28,81ea,29 =28,81f3,29 =554f =5e7c =6587 =7b8f
    8=70,74,65 =32,31 =32,32 =32,33 =32,34 =32,35 =32,36 =32,37 =32,38 =32,39 =33,30 =33,31 =33,32
    =33,33 =33,34 =33,35 =1100 .2=1102 .3=1105 =1109 .2=110b .5=110e =ac00 =b098 =b2e4 =b77c =b9c8
    =bc14 =c0ac =c544 =c790 =cc28 =ce74 =d0c0 =d30c =d558 =cc38,ace0 =c8fc,c758 =c6b0 1=4e00 =4e8c
    =4e09 =56db =4e94 =516d =4e03 =516b =4e5d =5341 =6708 =706b =6c34 =6728 =91d1 =571f =65e5 =682a
    =6709 =793e =540d =7279 =8ca1 =795d =52b4 =79d8 =7537 =5973 =9069 =512a =5370 =6ce8 =9805 =4f11
    =5199 =6b63 =4e0a =4e2d =4e0b =5de6 =53f3 =533b =5b97 =5b66 =76e3 =4f01 =8cc7 =5354 =591c =33,36
    =33,37 =33,38 =33,39 =34,30 =34,31 =34,32 =34,33 =34,34 =34,35 =34,36 =34,37 =34,38 =34,39
    =35,30 =31,6708 =32,6708 =33,6708 =34,6708 =35,6708 =36,6708 =37,6708 =38,6708 =39,6708
    =31,30,6708 =31,31,6708 =31,32,6708 =68,67 =65,72,67 =65,76 =6c,74,64 =30a2 =30a4 =30a6 =30a8
    .2=30aa =30ad =30af =30b1 =30b3 =30b5 =30b7 =30b9 =30bb =30bd =30bf =30c1 =30c4 =30c6 =30c8
    .6=30ca =30d2 =30d5 =30d8 =30db .5=30de =30e4 =30e6 .6=30e8 .4=30ef =4ee4,548c
    =30a2,30d1,30fc,30c8 =30a2,30eb,30d5,30a1 =30a2,30f3,30da,30a2 =30a2,30fc,30eb
    =30a4,30cb,30f3,30b0 =30a4,30f3,30c1 =30a6,30a9,30f3 =30a8,30b9,30af,30fc,30c9
    =30a8,30fc,30ab,30fc =30aa,30f3,30b9 =30aa,30fc,30e0 =30ab,30a4,30ea =30ab,30e9,30c3,30c8
    =30ab,30ed,30ea,30fc =30ac,30ed,30f3 =30ac,30f3,30de =30ae,30ac =30ae,30cb,30fc
    =30ad,30e5,30ea,30fc =30ae,30eb,30c0,30fc =30ad,30ed =30ad,30ed,30b0,30e9,30e0
    =30ad,30ed,30e1,30fc,30c8,30eb =30ad,30ed,30ef,30c3,30c8 =30b0,30e9,30e0
    =30b0,30e9,30e0,30c8,30f3 =30af,30eb,30bc,30a4,30ed =30af,30ed,30fc,30cd =30b1,30fc,30b9
    =30b3,30eb,30ca =30b3,30fc,30dd =30b5,30a4,30af,30eb =30b5,30f3,30c1,30fc,30e0
    =30b7,30ea,30f3,30b0 =30bb,30f3,30c1 =30bb,30f3,30c8 =30c0,30fc,30b9 =30c7,30b7 =30c9,30eb
    =30c8,30f3 =30ca,30ce =30ce,30c3,30c8 =30cf,30a4,30c4 =30d1,30fc,30bb,30f3,30c8 =30d1,30fc,30c4
    =30d0,30fc,30ec,30eb =30d4,30a2,30b9,30c8,30eb =30d4,30af,30eb =30d4,30b3 =30d3,30eb
    =30d5,30a1,30e9,30c3,30c9 =30d5,30a3,30fc,30c8 =30d6,30c3,30b7,30a7,30eb =30d5,30e9,30f3
    =30d8,30af,30bf,30fc,30eb =30da,30bd =30da,30cb,30d2 =30d8,30eb,30c4 =30da,30f3,30b9
    =30da,30fc,30b8 =30d9,30fc,30bf =30dd,30a4,30f3,30c8 =30dc,30eb,30c8 =30db,30f3 =30dd,30f3,30c9
    =30db,30fc,30eb =30db,30fc,30f3 =30de,30a4,30af,30ed =30de,30a4,30eb =30de,30c3,30cf
    =30de,30eb,30af =30de,30f3,30b7,30e7,30f3 =30df,30af,30ed,30f3 =30df,30ea
    =30df,30ea,30d0,30fc,30eb =30e1,30ac =30e1,30ac,30c8,30f3 =30e1,30fc,30c8,30eb =30e4,30fc,30c9
    =30e4,30fc,30eb =30e6,30a2,30f3 =30ea,30c3,30c8,30eb =30ea,30e9 =30eb,30d4,30fc
    =30eb,30fc,30d6,30eb =30ec,30e0 =30ec,30f3,30c8,30b2,30f3 =30ef,30c3,30c8 =30,70b9 =31,70b9
    =32,70b9 =33,70b9 =34,70b9 =35,70b9 =36,70b9 =37,70b9 =38,70b9 =39,70b9 =31,30,70b9 =31,31,70b9
    =31,32,70b9 =31,33,70b9 =31,34,70b9 =31,35,70b9 =31,36,70b9 =31,37,70b9 =31,38,70b9 =31,39,70b9
    =32,30,70b9 =32,31,70b9 =32,32,70b9 =32,33,70b9 =32,34,70b9 =68,70,61 =64,61 =61,75 =62,61,72
    =6f,76 =70,63 =64,6d =64,6d,32 =64,6d,33 =69,75 =5e73,6210 =662d,548c =5927,6b63 =660e,6cbb
    =682a,5f0f,4f1a,793e =70,61 =6e,61 =3bc,61 =6d,61 =6b,61 =6b,62 =6d,62 =67,62 =63,61,6c
    =6b,63,61,6c =70,66 =6e,66 =3bc,66 =3bc,67 =6d,67 =6b,67 =68,7a =6b,68,7a =6d,68,7a =67,68,7a
    =74,68,7a =3bc,6c =6d,6c =64,6c =6b,6c =66,6d =6e,6d =3bc,6d =6d,6d =63,6d =6b,6d =6d,6d,32
    =63,6d,32 =6d,32 =6b,6d,32 =6d,6d,33 =63,6d,33 =6d,33 =6b,6d,33 =6d,2215,73 =6d,2215,73,32
    =70,61 =6b,70,61 =6d,70,61 =67,70,61 =72,61,64 =72,61,64,2215,73 =72,61,64,2215,73,32 =70,73
    =6e,73 =3bc,73 =6d,73 =70,76 =6e,76 =3bc,76 =6d,76 =6b,76 =6d,76 =70,77 =6e,77 =3bc,77 =6d,77
    =6b,77 =6d,77 =6b,3c9 =6d,3c9 =! =62,71 =63,63 =63,64 =63,2215,6b,67 =! =64,62 =67,79 =68,61
    =68,70 =69,6e =6b,6b =6b,6d =6b,74 =6c,6d =6c,6e =6c,6f,67 =6c,78 =6d,62 =6d,69,6c =6d,6f,6c
    =70,68 =! =70,70,6d =70,72 =73,72 =73,76 =77,62 =76,2215,6d =61,2215,6d =31,65e5 =32,65e5
    =33,65e5 =34,65e5 =35,65e5 =36,65e5 =37,65e5 =38,65e5 =39,65e5 =31,30,65e5 =31,31,65e5
    =31,32,65e5 =31,33,65e5 =31,34,65e5 =31,35,65e5 =31,36,65e5 =31,37,65e5 =31,38,65e5 =31,39,65e5
    =32,30,65e5 =32,31,65e5 =32,32,65e5 =32,33,65e5 =32,34,65e5 =32,35,65e5 =32,36,65e5 =32,37,65e5
    =32,38,65e5 =32,39,65e5 =33,30,65e5 =33,31,65e5 =67,61,6c 708d.3=! 37.9=! 15c.14=! =a641 1=a643
    1=a645 1=a647 1=a649 1=a64b 1=a64d 1=a64f 1=a651 1=a653 1=a655 1=a657 1=a659 1=a65b 1=a65d
    1=a65f 1=a661 1=a663 1=a665 1=a667 1=a669 1=a66b 1=a66d 13=a681 1=a683 1=a685 1=a687 1=a689
    1=a68b 1=a68d 1=a68f 1=a691 1=a693 1=a695 1=a697 1=a699 1=a69b 1=44a =44c 5a.8=! 22=a723 1=a725
    1=a727 1=a729 1=a72b 1=a72d 1=a72f 3=a733 1=a735 1=a737 1=a739 1=a73b 1=a73d 1=a73f 1=a741
    1=a743 1=a745 1=a747 1=a749 1=a74b 1=a74d 1=a74f 1=a751 1=a753 1=a755 1=a757 1=a759 1=a75b
    1=a75d 1=a75f 1=a761 1=a763 1=a765 1=a767 1=a769 1=a76b 1=a76d 1=a76f 1=a76f 8=a77a 1=a77c
    1=1d79 =a77f 1=a781 1=a783 1=a785 1=a787 4=a78c 1=265 2=a791 1=a793 3=a797 1=a799 1=a79b 1=a79d
    1=a79f 1=a7a1 1=a7a3 1=a7a5 1=a7a7 1=a7a9 1=266 =25c =261 =26c =26a 1=29e =287 =29d =ab53 =a7b5
    1=a7b7 1=a7b9 1=a7bb 1=a7bd 1=a7bf 1=a7c1 1=a7c3 1=a794 =282 =1d8e =a7c8 1=a7ca 1.5=! =a7d1 1=!
    1=! 1=a7d7 1=a7d9 1.18=! =63 =66 =71 =a7f6 2=127 =153 33.3=! a.6=! 38.8=! 46.8=! c.6=! 74.b=!
    1e.3=! 4e=! b.4=! 21=! 37.9=! e.2=! a.2=! 67.18=! 1c.a=! 6.2=! 6.2=! 6.9=! 7=! 7=! 2c=a727 =ab37
    =26b =ab52 9=28d 2.4=! .50=13a0 2e.2=! a.6=! 2ba4.c=! 17.4=! 31.2104=! =8c48 =66f4 =8eca =8cc8
    =6ed1 =4e32 =53e5 =9f9c =9f9c =5951 =91d1 =5587 =5948 =61f6 =7669 =7f85 =863f =87ba =88f8 =908f
    =6a02 =6d1b =70d9 =73de =843d =916a =99f1 =4e82 =5375 =6b04 =721b =862d =9e1e =5d50 =6feb =85cd
    =8964 =62c9 =81d8 =881f =5eca =6717 =6d6a =72fc =90ce =4f86 =51b7 =52de =64c4 =6ad3 =7210 =76e7
    =8001 =8606 =865c =8def =9732 =9b6f =9dfa =788c =797f =7da0 =83c9 =9304 =9e7f =8ad6 =58df =5f04
    =7c60 =807e =7262 =78ca =8cc2 =96f7 =58d8 =5c62 =6a13 =6dda =6f0f =7d2f =7e37 =964b =52d2 =808b
    =51dc =51cc =7a1c =7dbe =83f1 =9675 =8b80 =62cf =6a02 =8afe =4e39 =5be7 =6012 =7387 =7570 =5317
    =78fb =4fbf =5fa9 =4e0d =6ccc =6578 =7d22 =53c3 =585e =7701 =8449 =8aaa =6bba =8fb0 =6c88 =62fe
    =82e5 =63a0 =7565 =4eae =5169 =51c9 =6881 =7ce7 =826f =8ad2 =91cf =52f5 =5442 =5973 =5eec =65c5
    =6ffe =792a =95ad =9a6a =9e97 =9ece =529b =66c6 =6b77 =8f62 =5e74 =6190 =6200 =649a =6f23 =7149
    =7489 =79ca =7df4 =806f =8f26 =84ee =9023 =934a =5217 =52a3 =54bd =70c8 =88c2 =8aaa =5ec9 =5ff5
    =637b =6bae =7c3e =7375 =4ee4 =56f9 =5be7 =5dba =601c =73b2 =7469 =7f9a =8046 =9234 =96f6 =9748
    =9818 =4f8b =79ae =91b4 =96b8 =60e1 =4e86 =50da =5bee =5c3f =6599 =6a02 =71ce =7642 =84fc =907c
    =9f8d =6688 =962e =5289 =677b =67f3 =6d41 =6e9c =7409 =7559 =786b =7d10 =985e =516d =622e =9678
    =502b =5d19 =6dea =8f2a =5f8b =6144 =6817 =7387 =9686 =5229 =540f =5c65 =6613 =674e =68a8 =6ce5
    =7406 =75e2 =7f79 =88cf =88e1 =91cc =96e2 =533f =6eba =541d =71d0 =7498 =85fa =96a3 =9c57 =9e9f
    =6797 =6dcb =81e8 =7acb =7b20 =7c92 =72c0 =7099 =8b58 =4ec0 =8336 =523a =5207 =5ea6 =62d3 =7cd6
    =5b85 =6d1e =66b4 =8f3b =884c =964d =898b =5ed3 =5140 =55c0 2=585a 1=6674 2=51de =732a =76ca
    =793c =795e =7965 =798f =9756 =7cbe =7fbd 1=8612 1=8af8 2=9038 =90fd 3=98ef =98fc =9928 =9db4
    =90de =96b7 =4fae =50e7 =514d =52c9 =52e4 =5351 =559d =5606 =5668 =5840 =58a8 =5c64 =5c6e =6094
    =6168 =618e =61f2 =654f =65e2 =6691 =6885 =6d77 =6e1a =6f22 =716e =722b =7422 =7891 =793e =7949
    =7948 =7950 =7956 =795d .2=798d =7a40 =7a81 =7bc0 =7df4 =7e09 =7e41 =7f72 =8005 =81ed =8279
    =8279 =8457 =8910 =8996 =8b01 =8b39 =8cd3 =8d08 =8fb6 =9038 =96e3 =97ff =983b =6075 =242ee =8218
    .2=! =4e26 =51b5 =5168 =4f80 =5145 =5180 =52c7 =52fa =559d =5555 =5599 =55e2 =585a =58b3 =5944
    =5954 =5a62 =5b28 =5ed2 =5ed9 =5f69 =5fad =60d8 =614e =6108 =618e =6160 =61f2 =6234 =63c4 =641c
    =6452 =6556 =6674 =6717 =671b =6756 =6b79 =6bba =6d41 =6edb =6ecb =6f22 =701e =716e =77a7 =7235
    =72af =732a =7471 =7506 =753b =761d =761f =76ca =76db =76f4 =774a =7740 =78cc =7ab1 =7bc0 =7c7b
    =7d5b =7df4 =7f3e =8005 =8352 =83ef =8779 =8941 =8986 =8996 =8abf =8af8 =8acb =8b01 =8afe =8aed
    =8b39 =8b8a =8d08 =8f38 =9072 =9199 =9276 =967c =96e3 =9756 =97db =97ff =980b =983b =9b12 =9f9c
    =2284a =22844 =233d5 =3b9d =4018 =4039 =25249 =25cd0 =27ed3 =9f43 =9f8e .26=! =66,66 =66,69
    =66,6c =66,66,69 =66,66,6c =73,74 =73,74 .c=! =574,576 =574,565 =574,56b =57e,576 =574,56d .5=!
    =5d9,5b4 1=5f2,5b7 =5e2 =5d0 .2=5d3 .3=5db =5e8 =5ea =2b =5e9,5c1 =5e9,5c2 =5e9,5bc,5c1
    =5e9,5bc,5c2 =5d0,5b7 =5d0,5b8 =5d0,5bc =5d1,5bc =5d2,5bc =5d3,5bc =5d4,5bc =5d5,5bc =5d6,5bc =!
    =5d8,5bc =5d9,5bc =5da,5bc =5db,5bc =5dc,5bc =! =5de,5bc =! =5e0,5bc =5e1,5bc =! =5e3,5bc
    =5e4,5bc =! =5e6,5bc =5e7,5bc =5e8,5bc =5e9,5bc =5ea,5bc =5d5,5b9 =5d1,5bf =5db,5bf =5e4,5bf
    =5d0,5dc =671 =671 =67b =67b =67b =67b =67e =67e =67e =67e =680 =680 =680 =680 =67a =67a =67a
    =67a =67f =67f =67f =67f =679 =679 =679 =679 =6a4 =6a4 =6a4 =6a4 =6a6 =6a6 =6a6 =6a6 =684 =684
    =684 =684 =683 =683 =683 =683 =686 =686 =686 .2=686 =687 =687 =687 =68d =68d =68c =68c =68e =68e
    =688 =688 =698 =698 =691 =691 =6a9 =6a9 =6a9 =6a9 =6af =6af =6af =6af =6b3 =6b3 =6b3 =6b3 =6b1
    =6b1 =6b1 =6b1 =6ba .2=6ba =6bb =6bb =6bb =6c0 .2=6c0 =6c1 =6c1 =6c1 =6be =6be =6be =6be =6d2
    .2=6d2 =6d3 11.10=! =6ad =6ad =6ad =6ad =6c7 =6c7 =6c6 =6c6 =6c8 =6c8 =6c7,674 =6cb =6cb =6c5
    =6c5 =6c9 =6c9 =6d0 =6d0 =6d0 =6d0 =649 =649 =626,627 =626,627 =626,6d5 =626,6d5 =626,648
    =626,648 =626,6c7 =626,6c7 =626,6c6 =626,6c6 =626,6c8 =626,6c8 =626,6d0 =626,6d0 =626,6d0
    =626,649 =626,649 =626,649 =6cc =6cc =6cc =6cc =626,62c =626,62d =626,645 =626,649 =626,64a
    =628,62c =628,62d =628,62e =628,645 =628,649 =628,64a =62a,62c =62a,62d =62a,62e =62a,645
    =62a,649 =62a,64a =62b,62c =62b,645 =62b,649 =62b,64a =62c,62d =62c,645 =62d,62c =62d,645
    =62e,62c =62e,62d =62e,645 =633,62c =633,62d =633,62e =633,645 =635,62d =635,645 =636,62c
    =636,62d =636,62e =636,645 =637,62d =637,645 =638,645 =639,62c =639,645 =63a,62c =63a,645
    =641,62c =641,62d =641,62e =641,645 =641,649 =641,64a =642,62d =642,645 =642,649 =642,64a
    =643,627 =643,62c =643,62d =643,62e =643,644 =643,645 =643,649 =643,64a =644,62c =644,62d
    =644,62e =644,645 =644,649 =644,64a =645,62c =645,62d =645,62e =645,645 =645,649 =645,64a
    =646,62c =646,62d =646,62e =646,645 =646,649 =646,64a =647,62c =647,645 =647,649 =647,64a
    =64a,62c =64a,62d =64a,62e =64a,645 =64a,649 =64a,64a =630,670 =631,670 =649,670 =20,64c,651
    =20,64d,651 =20,64e,651 =20,64f,651 =20,650,651 =20,651,670 =626,631 =626,632 =626,645 =626,646
    =626,649 =626,64a =628,631 =628,632 =628,645 =628,646 =628,649 =628,64a =62a,631 =62a,632
    =62a,645 =62a,646 =62a,649 =62a,64a =62b,631 =62b,632 =62b,645 =62b,646 =62b,649 =62b,64a
    =641,649 =641,64a =642,649 =642,64a =643,627 =643,644 =643,645 =643,649 =643,64a =644,645
    =644,649 =644,64a =645,627 =645,645 =646,631 =646,632 =646,645 =646,646 =646,649 =646,64a
    =649,670 =64a,631 =64a,632 =64a,645 =64a,646 =64a,649 =64a,64a =626,62c =626,62d =626,62e
    =626,645 =626,647 =628,62c =628,62d =628,62e =628,645 =628,647 =62a,62c =62a,62d =62a,62e
    =62a,645 =62a,647 =62b,645 =62c,62d =62c,645 =62d,62c =62d,645 =62e,62c =62e,645 =633,62c
    =633,62d =633,62e =633,645 =635,62d =635,62e =635,645 =636,62c =636,62d =636,62e =636,645
    =637,62d =638,645 =639,62c =639,645 =63a,62c =63a,645 =641,62c =641,62d =641,62e =641,645
    =642,62d =642,645 =643,62c =643,62d =643,62e =643,644 =643,645 =644,62c =644,62d =644,62e
    =644,645 =644,647 =645,62c =645,62d =645,62e =645,645 =646,62c =646,62d =646,62e =646,645
    =646,647 =647,62c =647,645 =647,670 =64a,62c =64a,62d =64a,62e =64a,645 =64a,647 =626,645
    =626,647 =628,645 =628,647 =62a,645 =62a,647 =62b,645 =62b,647 =633,645 =633,647 =634,645
    =634,647 =643,644 =643,645 =644,645 =646,645 =646,647 =64a,645 =64a,647 =640,64e,651
    =640,64f,651 =640,650,651 =637,649 =637,64a =639,649 =639,64a =63a,649 =63a,64a =633,649
    =633,64a =634,649 =634,64a =62d,649 =62d,64a =62c,649 =62c,64a =62e,649 =62e,64a =635,649
    =635,64a =636,649 =636,64a =634,62c =634,62d =634,62e =634,645 =634,631 =633,631 =635,631
    =636,631 =637,649 =637,64a =639,649 =639,64a =63a,649 =63a,64a =633,649 =633,64a =634,649
    =634,64a =62d,649 =62d,64a =62c,649 =62c,64a =62e,649 =62e,64a =635,649 =635,64a =636,649
    =636,64a =634,62c =634,62d =634,62e =634,645 =634,631 =633,631 =635,631 =636,631 =634,62c
    =634,62d =634,62e =634,645 =633,647 =634,647 =637,645 =633,62c =633,62d =633,62e =634,62c
    =634,62d =634,62e =637,645 =638,645 =627,64b =627,64b 12=62a,62c,645 =62a,62d,62c =62a,62d,62c
    =62a,62d,645 =62a,62e,645 =62a,645,62c =62a,645,62d =62a,645,62e =62c,645,62d =62c,645,62d
    =62d,645,64a =62d,645,649 =633,62d,62c =633,62c,62d =633,62c,649 =633,645,62d =633,645,62d
    =633,645,62c =633,645,645 =633,645,645 =635,62d,62d =635,62d,62d =635,645,645 =634,62d,645
    =634,62d,645 =634,62c,64a =634,645,62e =634,645,62e =634,645,645 =634,645,645 =636,62d,649
    =636,62e,645 =636,62e,645 =637,645,62d =637,645,62d =637,645,645 =637,645,64a =639,62c,645
    =639,645,645 =639,645,645 =639,645,649 =63a,645,645 =63a,645,64a =63a,645,649 =641,62e,645
    =641,62e,645 =642,645,62d =642,645,645 =644,62d,645 =644,62d,64a =644,62d,649 =644,62c,62c
    =644,62c,62c =644,62e,645 =644,62e,645 =644,645,62d =644,645,62d =645,62d,62c =645,62d,645
    =645,62d,64a =645,62c,62d =645,62c,645 =645,62e,62c =645,62e,645 .2=! =645,62c,62e =647,645,62c
    =647,645,645 =646,62d,645 =646,62d,649 =646,62c,645 =646,62c,645 =646,62c,649 =646,645,64a
    =646,645,649 =64a,645,645 =64a,645,645 =628,62e,64a =62a,62c,64a =62a,62c,649 =62a,62e,64a
    =62a,62e,649 =62a,645,64a =62a,645,649 =62c,645,64a =62c,62d,649 =62c,645,649 =633,62e,649
    =635,62d,64a =634,62d,64a =636,62d,64a =644,62c,64a =644,645,64a =64a,62d,64a =64a,62c,64a
    =64a,645,64a =645,645,64a =642,645,64a =646,62d,64a =642,645,62d =644,62d,645 =639,645,64a
    =643,645,64a =646,62c,62d =645,62e,64a =644,62c,645 =643,645,645 =644,62c,645 =646,62c,62d
    =62c,62d,64a =62d,62c,64a =645,62c,64a =641,645,64a =628,62d,64a =643,645,645 =639,62c,645
    =635,645,645 =633,62e,64a =646,62c,64a .7=! 1.20=! =635,644,6d2 =642,644,6d2 =627,644,644,647
    =627,643,628,631 =645,62d,645,62f =635,644,639,645 =631,633,648,644 =639,644,64a,647
    =648,633,644,645 =635,644,649
    =635,644,649,20,627,644,644,647,20,639,644,64a,647,20,648,633,644,645
    =62c,644,20,62c,644,627,644,647 =631,6cc,627,644 3.10=- =2c =3001 =! .2=3a =21 =3f .2=3016 .7=!
    10=! =2014 =2013 =5f =5f .2=28 =7b =7d .2=3014 .2=3010 .2=300a .2=3008 .4=300c 2=5b =5d =20,305
    =20,305 =20,305 =20,305 =5f =5f =5f =2c =3001 .2=! =3b =3a =3f =21 =2014 .2=28 =7b =7d .2=3014
    =23 =26 .2=2a =2d =3c =3e =3d =! =5c .2=24 =40 .4=! =20,64b =640,64b =20,64c 1=20,64d =! =20,64e
    =640,64e =20,64f =640,64f =20,650 =640,650 =20,651 =640,651 =20,652 =640,652 .2=621 .2=622
    .2=623 .2=624 .2=625 =626 =626 .2=626 .2=627 =628 =628 .2=628 .2=629 =62a =62a .2=62a =62b =62b
    .2=62b =62c =62c .2=62c =62d =62d .2=62d =62e =62e .2=62e .2=62f .2=630 .2=631 .2=632 =633 =633
    .2=633 =634 =634 .2=634 =635 =635 .2=635 =636 =636 .2=636 =637 =637 .2=637 =638 =638 .2=638 =639
    =639 .2=639 =63a =63a =63a =641 =641 =641 .2=641 =642 =642 .2=642 =643 =643 .2=643 =644 =644
    .2=644 =645 =645 .2=645 =646 =646 .2=646 =647 =647 .2=647 .2=648 .2=649 =64a =64a =64a =644,622
    =644,622 =644,623 =644,623 =644,625 =644,625 =644,627 =644,627 .2=! =- =! .20=21 .1a=61 .24=5b
    .2=2985 =2e .2=300c =3001 =30fb =30f2 =30a1 =30a3 =30a5 =30a7 =30a9 =30e3 =30e5 =30e7 =30c3
    =30fc =30a2 =30a4 =30a6 =30a8 .2=30aa =30ad =30af =30b1 =30b3 =30b5 =30b7 =30b9 =30bb =30bd
    =30bf =30c1 =30c4 =30c6 =30c8 .6=30ca =30d2 =30d5 =30d8 =30db .5=30de =30e4 =30e6 .6=30e8 =30ef
    =30f3 .2=3099 =! .2=1100 =11aa =1102 .2=11ac .3=1103 .6=11b0 =111a .3=1106 =1121 .a=1109 .3=!
    .6=1161 .2=! .6=1167 .2=! .6=116d .2=! .3=1173 .3=! .2=a2 =ac =20,304 =a6 =a5 =20a9 =! =2502
    .4=2190 =25a0 =25cb .11=! c=! 1a=! 13=! 2=! f.2=! e.22=! 7b.5=! 3.4=! 2d.3=! 58=! d.3=! 1.2f=!
    2e.82=! 1d.3=! 31.f=! 1c.4=! 24.9=! 1e.5=! 2b.5=! 1e=! 25.4=! e.2a=! .28=10428 76.2=! a.6=!
    .24=104d8 .4=! 24.4=! 28.8=! 34.b=! 1.b=10597 =! .f=105a3 =! .7=105b3 =! .2=105bb =! b=! f=! 7=!
    2.43=! 137.9=! 16.a=! 8.18=! 1.2=2d0 =e6 =299 =253 =! =2a3 =ab66 =2a5 =2a4 .2=256 =1d91 =258
    =25e =2a9 =264 =262 =260 =29b =127 =29c =267 =284 .2=2aa =26c =1df04 =a78e =26e =1df05 =28e
    =1df06 =f8 .2=276 =71 =27a =1df08 .2=27d =280 =2a8 =2a6 =ab67 =2a7 =288 =2c71 =! =28f .2=2a1
    =298 .3=1c0 =1df0a =1df1e .45=! 6.2=! 1=! 2c=! 2.3=! 1.2=! 17=! 48.8=! 9.30=! 13=! 2.5=! 21.3=!
    1b.5=! 1.40=! 38.4=! 14.2=! 32=! 2.5=! 8=! 3=! 1d.2=! 3.4=! a.7=! 9.7=! 40.20=! 27.4=! c.9=!
    36.3=! 1d.2=! 1b.5=! 1a.7=! 4.c=! 7.50=! 49.37=! .33=10cc0 .d=! 33.7=! 2e.8=! a.126=! 1f=! 2a=!
    3.2=! 2.4b=! 2b.8=! 2a.16=! 1a.26=! 1c.14=! 17.9=! 4e.4=! 24.9=! 3e=! 5.d=! 19.7=! a.6=! 35=!
    12.8=! 27.9=! 60=! 14.b=! 12=! 2f.3e=! 7=! 1=! 4=! f=! b.6=! 3b.5=! a.6=! 4=! 8.2=! 2.2=! 16=!
    7=! 2=! 5=! a.2=! 2.2=! 3.2=! 1.6=! 1.5=! 7.2=! 7.3=! 5.8b=! 5c=! 5.1e=! 48.8=! a.a6=! 36.2=!
    26.22=! 45.b=! a.6=! d.13=! 3a.6=! a.36=! 1b.2=! f.4=! 17.b9=! 3c.64=! .20=118c0 33.c=! 8.2=!
    1.2=! 8=! 2=! 1e=! 2.2=! c.9=! a.46=! 8.2=! 2e.2=! b.1b=! 48.8=! 53.d=! 49.7=! a.f6=! 9=! 2d=!
    e.a=! 1d.3=! 20.2=! 16=! e.49=! 7=! 2=! 2c.3=! 1=! 2=! 9.8=! a.6=! 6=! 2=! 25=! 2=! 6.7=!
    a.136=! 19.7=! 11=! 29.3=! 1c.56=! 1.f=! 32.d=! 39b.66=! 6f=! 5.b=! c4.a4c=! 63.d=! 430.10=!
    16.faa=! 247.21b9=! 239.7=! 1f=! a.4=! 51=! a.6=! 1e.2=! 6.a=! 46.a=! a=! 7=! 15.5=! 13.2b0=!
    .20=16e60 3b.65=! 4b.4=! 39.7=! 11.40=! 5.b=! 2.e=! 17f8.8=! 4d6.2a=! 9.22e7=! 4=! 7=! 2=!
    123.f=! 1.1d=! 3.2=! 1.e=! 4.8=! 18c.904=! 6b.5=! d.3=! 9.7=! a.2=! 4.4=- .125c=! 2e.2=! 17.9=!
    74.3c=! f6.a=! 27.2=! 35=1d157,1d165 =1d158,1d165 =1d158,1d165,1d16e =1d158,1d165,1d16f
    =1d158,1d165,1d170 =1d158,1d165,1d171 =1d158,1d165,1d172 e.8=! 40=1d1b9,1d165 =1d1ba,1d165
    =1d1b9,1d165,1d16e =1d1ba,1d165,1d16e =1d1b9,1d165,1d16f =1d1ba,1d165,1d16f 2a.15=! 46.7a=!
    14.c=! 14.c=! 57.9=! 19.87=! .1a=61 .1a=61 .1a=61 .7=61 =! .12=69 .1a=61 .1a=61 =61 =! .2=63
    .2=! =67 .2=! .2=6a .2=! .4=6e =! .8=73 .4=61 =! =66 =! .7=68 =! .b=70 .1a=61 .1a=61 .2=61 =!
    .4=64 .2=! .8=6a =! .7=73 =! .1a=61 .2=61 =! .4=64 =! .5=69 =! =6f .3=! .7=73 =! .1a=61 .1a=61
    .1a=61 .1a=61 .1a=61 .1a=61 .1a=61 .1a=61 .1a=61 .1a=61 .1a=61 .1a=61 .1a=61 =131 =237 .2=!
    .11=3b1 =3b8 .7=3c3 =2207 .11=3b1 =3c3 .7=3c3 =2202 =3b5 =3b8 =3ba =3c6 =3c1 =3c0 .11=3b1 =3b8
    .7=3c3 =2207 .11=3b1 =3c3 .7=3c3 =2202 =3b5 =3b8 =3ba =3c6 =3c1 =3c0 .11=3b1 =3b8 .7=3c3 =2207
    .11=3b1 =3c3 .7=3c3 =2202 =3b5 =3b8 =3ba =3c6 =3c1 =3c0 .11=3b1 =3b8 .7=3c3 =2207 .11=3b1 =3c3
    .7=3c3 =2202 =3b5 =3b8 =3ba =3c6 =3c1 =3c0 .11=3b1 =3b8 .7=3c3 =2207 .11=3b1 =3c3 .7=3c3 =2202
    =3b5 =3b8 =3ba =3c6 =3c1 =3c0 =3dd =3dd .2=! .a=30 .a=30 .a=30 .a=30 .a=30 28c.f=! 5=! f.450=!
    1f.6=! 6.d5=! 7=! 11.2=! 7=! 2=! 5.5=! .9=430 .3=43a .b=43e =44b .2=44d =a689 =4d9 =456 =458
    =4e9 =4af =4cf .9=430 .2=43a .2=43e =441 .6=443 .2=44a =491 =456 =455 =45f =4ab =a651 =4b1 .21=!
    1.70=! 2d.3=! e.2=! a.4=! 2.140=! 1f.11=! 3a.5=! 1.1d0=! 2a.2e6=! 7=! 4=! 2=! f=! c5.2=! 10.29=!
    .22=1e922 2a.4=! a.4=! 2.311=! 44.4c=! 3d.c2=! .2=627 =62c =62f =! =648 =632 =62d =637 =64a
    .4=643 =633 =639 =641 =635 =642 =631 =634 .2=62a =62e =630 =636 =638 =63a =66e =6ba =6a1 =66f =!
    =628 =62c =! =647 .2=! =62d =! =64a .4=643 =633 =639 =641 =635 =642 =! =634 .2=62a =62e =! =636
    =! =63a .6=! =62c .4=! =62d =! =64a =! =644 =! =646 =633 =639 =! =635 =642 =! =634 .2=! =62e =!
    =636 =! =63a =! =6ba =! =66f =! =628 =62c =! =647 .2=! =62d =637 =64a =643 =! .2=645 =633 =639
    =641 =635 =642 =! =634 .2=62a =62e =! =636 =638 =63a =66e =! =6a1 =! .2=627 =62c =62f .2=647
    =632 =62d =637 =64a =! .3=644 =633 =639 =641 =635 =642 =631 =634 .2=62a =62e =630 =636 =638 =63a
    .5=! =628 =62c =62f =! =648 =632 =62d =637 =64a =! .3=644 =633 =639 =641 =635 =642 =631 =634
    .2=62a =62e =630 =636 =638 =63a .34=! 2.10e=! 2c.4=! 64.c=! f.2=! f=! f=! 25.b=! =30,2c =31,2c
    =32,2c =33,2c =34,2c =35,2c =36,2c =37,2c =38,2c =39,2c 5=28,61,29 =28,62,29 =28,63,29 =28,64,29
    =28,65,29 =28,66,29 =28,67,29 =28,68,29 =28,69,29 =28,6a,29 =28,6b,29 =28,6c,29 =28,6d,29
    =28,6e,29 =28,6f,29 =28,70,29 =28,71,29 =28,72,29 =28,73,29 =28,74,29 =28,75,29 =28,76,29
    =28,77,29 =28,78,29 =28,79,29 =28,7a,29 =3014,73,3015 =63 =72 =63,64 =77,7a 1.1a=61 =68,76
    =6d,76 =73,64 =73,73 =70,70,76 =77,63 1a=6d,63 =6d,64 =6d,72 23=64,6a 1d.38=! 1a=307b,304b
    =30b3,30b3 =30b5 .d=! =624b =5b57 =53cc =30c7 =4e8c =591a =89e3 =5929 =4ea4 =6620 =7121 =6599
    =524d =5f8c =518d =65b0 =521d =7d42 =751f =8ca9 =58f0 =5439 =6f14 =6295 =6355 =4e00 =4e09 =904a
    =5de6 =4e2d =53f3 =6307 =8d70 =6253 =7981 =7a7a =5408 =6e80 =6709 =6708 =7533 =5272 =55b6 =914d
    .4=! =3014,672c,3015 =3014,4e09,3015 =3014,4e8c,3015 =3014,5b89,3015 =3014,70b9,3015
    =3014,6253,3015 =3014,76d7,3015 =3014,52dd,3015 =3014,6557,3015 .7=! =5f97 =53ef .e=! 6.9a=!
    3d8.4=! 11.3=! d.3=! 77.4=! 5f.6=! c.4=! 1.f=! c.4=! 38.8=! a.6=! 28.8=! 1e.2=! 2.4e=! 154.c=!
    e.2=! d.3=! 9.7=! 2e=! 7.8=! e.4=! 9.7=! 9.7=! 93=! 37.25=! .a=30 .406=! a6e0.20=! 103a.6=!
    de.2=! 1682.e=! 1d31.c1f=! =4e3d =4e38 =4e41 =20122 =4f60 =4fae =4fbb =5002 =507a =5099 =50e7
    =50cf =349e =2063a =514d =5154 =5164 =5177 =2051c =34b9 =5167 =518d =2054b =5197 =51a4 =4ecc
    =51ac =51b5 =291df =51f5 =5203 =34df =523b =5246 =5272 =5277 =3515 =52c7 =52c9 =52e4 =52fa
    .2=5305 =5317 =5349 =5351 =535a =5373 =537d =537f =537f =537f =20a2c =7070 =53ca =53df =20b63
    =53eb =53f1 =5406 =549e =5438 =5448 =5468 =54a2 =54f6 =5510 =5553 =5563 =5584 =5584 =5599 =55ab
    =55b3 =55c2 =5716 =5606 =5717 =5651 =5674 =5207 =58ee =57ce =57f4 =580d =578b =5832 =5831 =58ac
    =214e4 =58f2 =58f7 =5906 =591a =5922 =5962 =216a8 =216ea =59ec =5a1b =5a27 =59d8 =5a66 =36ee =!
    =5b08 =5b3e =5b3e =219c8 =5bc3 =5bd8 =5be7 =5bf3 =21b18 =5bff =5c06 =! =5c22 =3781 =5c60 =5c6e
    =5cc0 =5c8d =21de4 =5d43 =21de6 =5d6e =5d6b =5d7c .2=5de1 =382f =5dfd =5e28 =5e3d =5e69 =3862
    =22183 =387c =5eb0 =5eb3 =5eb6 =5eca =2a392 =5efe =22331 =22331 =8201 =5f22 =5f22 =38c7 =232b8
    =261da =5f62 =5f6b =38e3 =5f9a =5fcd =5fd7 =5ff9 =6081 =393a =391c =6094 =226d4 =60c7 =6148
    =614c =614e =614c =617a =618e =61b2 =61a4 =61af =61de =61f2 =61f6 =6210 =621b =625d =62b1 =62d4
    =6350 =22b0c =633d =62fc =6368 =6383 =63e4 =22bf1 =6422 =63c5 =63a9 =3a2e =6469 =647e =649d
    =6477 =3a6c =654f =656c =2300a =65e3 =66f8 =6649 =3b19 =6691 =3b08 =3ae4 =5192 =5195 =6700 =669c
    =80ad =43d9 =6717 =671b =6721 =675e =6753 =233c3 =3b49 =67fa =6785 =6852 =6885 =2346d =688e
    =681f =6914 =3b9d =6942 =69a3 =69ea =6aa8 =236a3 =6adb =3c18 =6b21 =238a7 =6b54 =3c4e =6b72
    =6b9f .2=6bba =23a8d =21d0b =23afa =6c4e =23cbc =6cbf =6ccd =6c67 =6d16 =6d3e =6d77 =6d41 =6d69
    =6d78 =6d85 =23d1e =6d34 =6e2f =6e6e =3d33 =6ecb =6ec7 =23ed1 =6df9 =6f6e =23f5e =23f8e =6fc6
    =7039 =701e =701b =3d96 =704a =707d =7077 =70ad =20525 =7145 =24263 =719c =! =7228 =7235 =7250
    =24608 =7280 =7295 =24735 =24814 =737a =738b =3eac =73a5 =3eb8 =3eb8 =7447 =745c =7471 =7485
    =74ca =3f1b =7524 =24c36 =753e =24c92 =7570 =2219f =7610 =24fa1 =24fb8 =25044 =3ffc =4008 =76f4
    =250f3 =250f2 =25119 =25133 .2=771e =771f =774a =4039 =778b =4046 =4096 =2541d =784e =788c =78cc
    =40e3 =25626 =7956 =2569a =256c5 =798f =79eb =412f =7a40 =7a4a =7a4f =2597c =25aa7 =25aa7 =!
    =4202 =25bab =7bc6 =7bc9 =4227 =25c80 =7cd2 =42a0 =7ce8 =7ce3 =7d00 =25f86 =7d63 =4301 =7dc7
    =7e02 =7e45 =4334 =26228 =26247 =4359 =262d9 =7f7a =2633e =7f95 =7ffa =8005 =264da =26523 =8060
    =265a8 =8070 =2335f =43d5 =80b2 =8103 =440b =813e =5ab5 =267a7 =267b5 =23393 =2339c =8201 =8204
    =8f9e =446b =8291 =828b =829d =52b3 =82b1 =82b3 =82bd =82e6 =26b3c =82e5 =831d =8363 =83ad =8323
    =83bd =83e7 =8457 =8353 =83ca =83cc =83dc =26c36 =26d6b =26cd5 =452b =84f1 =84f3 =8516 =273ca
    =8564 =26f2c =455d =4561 =26fb1 =270d2 =456b =8650 =865c =8667 =8669 =86a9 =8688 =870e =86e2
    =8779 =8728 =876b =8786 =! =87e1 =8801 =45f9 =8860 =8863 =27667 =88d7 =88de =4635 =88fa =34bb
    =278ae =27966 =46be =46c7 =8aa0 =8aed =8b8a =8c55 =27ca8 =8cab =8cc1 =8d1b =8d77 =27f2f =20804
    =8dcb =8dbc =8df0 =208de =8ed4 =8f38 =285d2 =285ed =9094 =90f1 =9111 =2872e =911b =9238 .2=92d7
    =927c =93f9 =9415 =28bfa =958b =4995 =95b7 =28d77 =49e6 =96c3 =5db2 =9723 =29145 =2921a =4a6e
    =4a76 =97e0 =2940a =4ab2 =29496 =980b =980b =9829 =295b6 =98e2 =4b33 =9929 =99a7 =99c2 =99fe
    =4bce =29b30 =9b12 =9c40 =9cfd =4cce =4ced =9d67 =2a0ce =4cf8 =2a105 =2a20e =2a291 =9ebb =4d56
    =9ef9 =9efe =9f05 =9f0f =9f16 =9f3b =2a600 .5e2=! 134b.5=! 1060.add50=! .f0=- .2fe10=!"

/-- The marks, which may not start a label. -/
def markTable : String :=
  "300.70=M 113.7=M 107.2d=M 1=M 1.2=M 1.2=M 1=M 48.b=M 30.15=M 10=M 65.7=M 2.6=M 2.2=M 1.4=M 23=M
    1e.1b=M 5b.b=M 3a.9=M 9=M 18.4=M 1.9=M 1.3=M 1.5=M 2b.3=M 3c.8=M 2a.18=M 1.21=M 36.3=M 1.12=M
    1.7=M a.2=M 1d.3=M 38=M 1.7=M 2.2=M 2.3=M 9=M a.2=M 1a=M 2.3=M 38=M 1.5=M 4.2=M 2.3=M 3=M 1e.2=M
    3=M b.3=M 38=M 1.8=M 1.3=M 1.3=M 14.2=M 16.6=M 1.3=M 38=M 1.7=M 2.2=M 2.3=M 7.3=M a.2=M 1e=M
    3b.5=M 3.3=M 1.4=M 9=M 28.5=M 37=M 1.7=M 1.3=M 1.4=M 7.2=M b.2=M 1d.3=M 38=M 1.7=M 1.3=M 1.4=M
    7.2=M b.2=M f=M c.4=M 37.2=M 1.7=M 1.3=M 1.4=M 9=M a.2=M 1d.3=M 46=M 4.6=M 1=M 1.8=M 12.2=M 3d=M
    2.7=M c.8=M 62=M 2.9=M b.7=M 49.2=M 1b=M 1=M 1=M 4.2=M 31.14=M 1.2=M 5.b=M 1.24=M 9=M 64.14=M
    17.4=M 4.3=M 1.3=M 2.7=M 3.4=M d.c=M 1=M a.4=M 2bf.3=M 3b2.4=M 1c.3=M 1d.2=M 1e.2=M 40.20=M 9=M
    2d.3=M 1=M 75.2=M 22=M 76.c=M 4.c=M db.5=M 39.a=M 1.1d=M 2=M 30.1f=M 31.5=M 2f.11=M 26.9=M c.3=M
    1e.d=M 38.e=M 30.14=M 98.3=M 1.15=M 4=M 6=M 2.3=M c6.40=M 2d0.21=M bfe.3=M 8d=M 60.20=M 22a.6=M
    69.2=M 75d4.4=M 1.a=M 20.2=M 50.2=M 110=M 3=M 4=M 17.5=M 4=M 53.2=M 32.12=M 1a.12=M d=M 26.8=M
    19.d=M 2c.4=M 2f.e=M 24=M 43.e=M c=M 8.2=M 2d.3=M 32=M 1.3=M 2.2=M 5.2=M 1=M 29.5=M 5.2=M ec.8=M
    1.2=M 4f30=M 2e1.10=M 10.10=M 3cd=M e2=M 95.5=M 686.3=M 1.2=M 5.4=M 28.3=M 4=M a5.2=M 23d.4=M
    183.2=M 50.3=M 46.b=M 31.4=M 7a.3=M 35.f=M 29=M 2.2=M a.4=M 2d.b=M 7=M 3d.3=M 24.e=M 10.2=M 2c=M
    c.3=M 30.e=M 8.4=M 1.2=M 5c.c=M 6=M 2=M 9d.c=M 15.4=M 37.2=M 1.7=M 2.2=M 2.3=M 9=M a.2=M 2.7=M
    3.5=M c0.12=M 17=M 51.14=M eb.7=M 2.9=M 1b.2=M 52.11=M 6a.d=M 65.f=M 100.f=M f5.6=M 1.2=M 2.4=M
    1=M 1.2=M 8d.7=M 2.7=M 3=M 1c.a=M 28.7=M 1.4=M 8=M 9.b=M 2e.10=M 195.8=M 1.8=M 52.16=M 1.e=M
    7a.6=M 3=M 1.2=M 1.7=M 1=M 42.5=M 1.2=M 1.5=M 15b.4=M 9.2=M 1=M 30.7=M 3.5=M 14fd=M 6.f=M
    369a.5=M 3b.7=M 418=M 1.37=M 7.4=M 51=M b.2=M 4cab.2=M 1261.2e=M 2.17=M 21e.5=M 3.6=M 8.8=M
    2.7=M 1e.4=M 94.3=M 7bb.37=M 4.32=M 8=M e=M 16.5=M 1.f=M 550.7=M 1.11=M 2.7=M 1.2=M 1.5=M 64=M
    a0.7=M 177=M 3d.4=M 1fc.4=M 3e0.7=M 6d.7=M c17b5.f0=M"

/-- The directions that characters are written in. -/
def directionTable : String :=
  ".9=BN 5.e=BN 5.2=ON .3=ET .5=ON =ES =CS =ES .2=CS .a=EN =CS .6=ON .1a=L .6=ON .1a=L .4=ON .6=BN
    1.1a=BN =CS =ON .4=ET .4=ON =L .2=ON =BN .2=ON .2=ET .2=EN =ON =L .3=ON =EN =L .5=ON .17=L =ON
    .1f=L =ON .1c1=L .2=ON .7=L .e=ON .2=L .e=ON .5=L .9=ON =L .11=ON .70=NSM .4=L .2=ON .2=L 2.4=L
    =ON =L 4.2=ON =L =ON .3=L 1=L 1.14=L 1.53=L =ON .8c=L .7=NSM .a6=L 1.26=L 2.31=L =ON 2.2=ON =ET
    1.2d=NSM =R =NSM =R .2=NSM =R .2=NSM =R =NSM 8.1b=R 4.6=R b.6=AN .2=ON =AL .2=ET =AL =CS =AL
    .2=ON .b=NSM .30=AL .15=NSM .a=AN =ET .2=AN .3=AL =NSM .65=AL .7=NSM =AN =ON .6=NSM .2=AL .2=NSM
    =ON .4=NSM .2=AL .a=EN .14=AL 1.2=AL =NSM .1e=AL .1b=NSM 2.59=AL .b=NSM =AL e.2b=R .9=NSM .2=R
    .4=ON =R 2=NSM .18=R .4=NSM =R .9=NSM =R .3=NSM =R .5=NSM 2.f=R 1.19=R .3=NSM 2=R 1.b=AL 5.1f=AL
    1.2=AN 6.8=NSM .2a=AL .18=NSM =AN .20=NSM .37=L =NSM =L =NSM .4=L .8=NSM .4=L =NSM .3=L .7=NSM
    .a=L .2=NSM .1d=L =NSM .2=L 1.8=L 2.2=L 2.16=L 1.7=L 1=L 3.4=L 2=NSM .4=L .4=NSM 2.2=L 2.2=L
    =NSM =L 8=L 4.2=L 1.3=L .2=NSM 2.c=L .2=ET .7=L =ET .2=L =NSM 2.2=NSM =L 1.6=L 4.2=L 2.16=L
    1.7=L 1.2=L 1.2=L 1.2=L 2=NSM 1.3=L .2=NSM 4.2=NSM 2.3=NSM 3=NSM 7.4=L 1=L 7.a=L .2=NSM .3=L
    =NSM =L a.2=NSM =L 1.9=L 1.3=L 1.16=L 1.7=L 1.2=L 1.5=L 2=NSM .4=L .5=NSM 1.2=NSM =L 1.2=L =NSM
    2=L f.2=L .2=NSM 2.b=L =ET 7=L .6=NSM 1=NSM .2=L 1.8=L 2.2=L 2.16=L 1.7=L 1.2=L 1.5=L 2=NSM .2=L
    =NSM =L .4=NSM 2.2=L 2.2=L =NSM 7.2=NSM =L 4.2=L 1.3=L .2=NSM 2.12=L a=NSM =L 1.6=L 3.3=L 1.4=L
    3.2=L 1=L 1.2=L 3.2=L 3.3=L 3.c=L 4.2=L =NSM .2=L 3.3=L 1.3=L =NSM 2=L 6=L e.d=L .6=ON =ET =ON
    5=NSM .3=L =NSM .8=L 1.3=L 1.17=L 1.10=L 2=NSM =L .3=NSM .4=L 1.3=NSM 1.4=NSM 7.2=NSM 1.3=L 2=L
    2.2=L .2=NSM 2.a=L 7=L .7=ON .2=L =NSM .b=L 1.3=L 1.17=L 1.a=L 1.5=L 2=NSM .8=L 1.3=L 1.2=L
    .2=NSM 7.2=L 6.2=L 1.2=L .2=NSM 2.a=L 1.3=L c.2=NSM .b=L 1.3=L 1.29=L .2=NSM .4=L .4=NSM 1.3=L
    1.3=L =NSM .2=L 4.e=L .2=NSM 2.1a=L 1=NSM .2=L 1.12=L 3.18=L 1.9=L 1=L 2.7=L 3=NSM 4.3=L .3=NSM
    1=NSM 1.8=L 6.a=L 2.3=L c.30=L =NSM .2=L .7=NSM 4=ET .7=L .8=NSM .d=L 25.2=L 1=L 1.5=L 1.18=L
    1=L 1.a=L =NSM .2=L .9=NSM =L 2.5=L 1=L 1.7=NSM 1.a=L 2.4=L 20.18=L .2=NSM .1b=L =NSM =L =NSM =L
    =NSM .4=ON .a=L 1.24=L 4.e=NSM =L .5=NSM =L .2=NSM .5=L .b=NSM 1.24=NSM 1.8=L =NSM .6=L 1.d=L
    25.2d=L .4=NSM =L .6=NSM =L .2=NSM .2=L .2=NSM .19=L .2=NSM .4=L .3=NSM .10=L .4=NSM .d=L =NSM
    .2=L .2=NSM .6=L =NSM .f=L =NSM .28=L 1=L 5=L 2.179=L 1.4=L 2.7=L 1=L 1.4=L 2.29=L 1.4=L 2.21=L
    1.4=L 2.7=L 1=L 1.4=L 2.f=L 1.39=L 1.4=L 2.43=L 2.3=NSM .1d=L 3.10=L .a=ON 6.56=L 2.6=L 2=ON
    .27f=L 1.1a=L .2=ON 3.59=L 7.12=L .3=NSM =L 9.13=L .2=NSM .3=L 9.12=L .2=NSM c.d=L 1.3=L 1.2=NSM
    c.34=L .2=NSM =L .7=NSM .8=L =NSM .2=L .b=NSM .7=L =ET =L =NSM 2.a=L 6.a=ON 6.b=ON .3=NSM =BN
    =NSM .a=L 6.59=L 7.5=L .2=NSM .22=L =NSM =L 5.46=L a.1f=L 1.3=NSM .4=L .2=NSM .3=L 4.2=L =NSM
    .6=L .3=NSM 4=ON 3.2=ON .28=L 2.5=L b.2c=L 4.1a=L 6.b=L 3.22=ON .17=L .2=NSM .2=L =NSM 2.38=L
    =NSM =L .7=NSM 1=NSM =L =NSM .2=L .8=NSM .6=L .a=NSM 2=NSM .a=L 6.a=L 6.e=L 2.1f=NSM 31.4=NSM
    .30=L =NSM =L .5=NSM =L =NSM .5=L =NSM .a=L 3.1b=L .9=NSM .b=L 1.2=NSM .20=L .4=NSM .2=L .2=NSM
    =L .3=NSM .38=L =NSM =L .2=NSM .3=L =NSM =L .3=NSM .2=L 8.30=L .8=NSM .2=L .2=NSM 3.f=L 3.3c=L
    7.2b=L 2.b=L 8.3=NSM =L .d=NSM =L .7=NSM .4=L =NSM .6=L =NSM .3=L .2=NSM =L 5.c0=L .40=NSM
    .116=L 2.6=L 2.26=L 2.6=L 2.8=L 1=L 1=L 1=L 1.1f=L 2.35=L 1.7=L =ON =L .3=ON .3=L 1.7=L .3=ON
    .4=L 2.6=L 1.3=ON .d=L .3=ON 2.3=L 1.7=L .2=ON c.3=BN =L =R .18=ON 7=CS .5=ET .f=ON =CS .1a=ON
    1.5=BN 5.6=BN =EN =L 2.6=EN .2=ES .3=ON =L .a=EN .2=ES .3=ON 1.d=L 3.21=ET f.21=NSM f.2=ON =L
    .4=ON =L .2=ON .a=L =ON =L .3=ON .5=L .6=ON =L =ON =L =ON =L =ON .4=L =ET .b=L .2=ON .4=L .5=ON
    .5=L .4=ON .2=L .10=ON .29=L .3=ON 4.82=ON =ES =ET .122=ON .45=L .1a=ON =L .91=ON 19.b=ON
    15.28=ON .14=EN .4e=L .1c2=ON =L .153=ON .100=L .274=ON 2.20=ON 1.69=ON .e5=L .6=ON .4=L .3=NSM
    .2=L 5.7=ON .26=L 1=L 5=L 2.38=L 7.2=L e=NSM .17=L 9.7=L 1.7=L 1.7=L 1.7=L 1.7=L 1.7=L 1.7=L
    1.7=L 1.20=NSM .5e=ON 22.1a=ON 1.59=ON c.d6=ON 1a.c=ON 5.4=ON .3=L .19=ON .9=L .4=NSM .2=L =ON
    .5=L .2=ON .5=L .3=ON 1.56=L 2.2=NSM .2=ON .3=L =ON .5a=L =ON .4=L 5.2b=L 1.5e=L 1.30=L .24=ON
    c.2d=L .2=ON 1.30=L .10=ON .1c=L .3=ON .32=L .f=ON .c=L .4=ON .a7=L .4=ON .63=L .2=ON .1f=L =ON
    .19c0=L .40=ON .568d=L 3.37=ON 9.13d=L .3=ON .1c=L 14.2f=L .4=NSM =ON .a=NSM .2=ON .1e=L .2=NSM
    .50=L .2=NSM .6=L 8.22=ON .66=L =ON .42=L 5.2=L 1=L 1.5=L 18.10=L =NSM .3=L =NSM .4=L =NSM .19=L
    .2=NSM =L .4=ON =NSM 3.8=L .2=ET 6.34=L .4=ON 8.44=L .2=NSM 8.c=L 6.12=NSM .d=L =NSM .26=L
    .8=NSM .19=L .b=NSM .2=L b.1e=L 3.3=NSM .30=L =NSM .2=L .4=NSM .2=L .2=NSM .10=L 1.b=L 4.7=L
    =NSM .19=L 1.29=L .6=NSM .2=L .2=NSM .2=L .2=NSM 9.3=L =NSM .8=L =NSM =L 2.a=L 2.20=L =NSM .33=L
    =NSM =L .3=NSM .2=L .2=NSM .5=L .2=NSM =L =NSM =L 18.11=L .2=NSM .8=L =NSM a.6=L 2.6=L 2.6=L
    9.7=L 1.7=L 1.3a=L .2=ON 4.75=L =NSM .2=L =NSM .4=L =NSM 2.a=L 6.2ba4=L c.17=L 4.31=L 4.226e=L
    2.6a=L 26.7=L c.5=L 5=R =NSM .a=R =ES .d=R 1.5=R 1=R 1.2=R 1.2=R 1.a=R .73=AL 10.16b=AL .12=ON
    .40=AL 2.36=AL 7=ON 20.d=AL .3=ON .10=NSM .a=ON 6.10=NSM .20=ON =CS =ON =CS 1=ON =CS .9=ON =ET
    .2=ON .2=ES .3=ON 1=ON .2=ET =ON 4.5=AL 1.87=AL 2=BN 1.2=ON .3=ET .5=ON =ES =CS =ES .2=CS .a=EN
    =CS .6=ON .1a=L .6=ON .1a=L .b=ON .59=L 3.6=L 2.6=L 2.6=L 2.3=L 3.2=ET .3=ON .2=ET 1.7=ON a.5=ON
    2.c=L 1.1a=L 1.13=L 1.2=L 1.f=L 2.e=L 22.7b=L 5=L =ON =L 4.2d=L 3.9=L .4d=ON .2=L 1.d=ON 3=ON
    2f.2d=L =NSM 82.1d=L 3.31=L f=NSM .1b=EN 4.24=L 9.1e=L 5.26=L .5=NSM 5.1e=L 1.25=L 4.e=L 2a.9e=L
    2.a=L 6.24=L 4.24=L 4.28=L 8.34=L b.c=L 1.f=L 1.7=L 1.2=L 1.b=L 1.f=L 1.7=L 1.2=L 43.137=L
    9.16=L a.8=L 18.6=L 1.2a=L 1.9=L 45.6=R 2=R 1.2c=R 1.2=R 3=R 2.17=R 1.48=R 8.9=R 30.13=R 1.2=R
    5.21=R 3=ON .1a=R 5=R 40.38=R 4.14=R 2.2f=R .3=NSM 1.2=NSM 5.4=NSM .4=R 1.3=R 1.1d=R 2.3=NSM
    4=NSM .9=R 7.9=R 7.40=R 20.25=R .2=NSM 4.c=R 9.36=R 3.7=ON .16=R 2.1b=R 5.1a=R 7.4=R c.7=R
    50.49=R 37.33=R d.33=R 7.6=R .24=AL .4=NSM 8.a=AN 126.1f=AN 1.2a=R 1.2=NSM =R 2.2=R 4b.3=NSM
    .28=R 8.16=AL .b=NSM .9=AL 16.12=R .4=NSM .4=R 26.1c=R 14.17=R 9=L =NSM .36=L .f=NSM .7=L
    4.14=ON .a=L =NSM .2=L .2=NSM =L 9.3=NSM .31=L .4=NSM .2=L .2=NSM .7=L =NSM a=L 2.19=L 7.a=L
    6.3=NSM .24=L .5=NSM =L .8=NSM 1.12=L 8.23=L =NSM .3=L 9.2=NSM .34=L .9=NSM .a=L .4=NSM .2=L
    =NSM .10=L 1.14=L b.12=L 1.1c=L .3=NSM .2=L =NSM =L .2=NSM .6=L =NSM .2=L =NSM 3e.7=L 1=L 1.4=L
    1.f=L 1.b=L 6.2f=L =NSM .3=L .8=NSM 5.a=L 6.2=NSM .2=L 1.8=L 2.2=L 2.16=L 1.7=L 1.2=L 1.5=L
    1.2=NSM .3=L =NSM .4=L 2.2=L 2.3=L 2=L 6=L 5.7=L 2.7=NSM 3.5=NSM 8b.38=L .8=NSM .2=L .3=NSM =L
    =NSM .15=L 1=L =NSM .3=L 1e.33=L .6=NSM =L =NSM .4=L .2=NSM =L .2=NSM .4=L 8.a=L a6.32=L .4=NSM
    2.4=L .2=NSM =L .2=NSM .1b=L .2=NSM 22.33=L .8=NSM .2=L =NSM =L .2=NSM .4=L b.a=L 6.d=ON 13.2b=L
    =NSM =L =NSM .2=L .6=NSM =L =NSM .2=L 6.a=L 36.1b=L 2.3=NSM .2=L .4=NSM =L .5=NSM 4.17=L b9.2f=L
    .9=NSM =L .2=NSM =L 64.53=L c.8=L 2=L 2.8=L 1.2=L 1.1e=L 1.2=L 2.2=NSM =L =NSM .4=L =NSM .3=L
    9.a=L 46.8=L 2.2a=L .4=NSM 2.2=NSM .4=L =NSM .4=L 1b=L .6=NSM .2=L .2=NSM .28=L .6=NSM .2=L
    .4=NSM .8=L =NSM 8=L .6=NSM .2=L .3=NSM .2e=L .d=NSM =L .2=NSM .9=L d.49=L 7.a=L f6.9=L 1.26=L
    .7=NSM 1.6=NSM .8=L a.1d=L 3.20=L 2.16=NSM 1=L .7=NSM =L .2=NSM =L .2=NSM 49.7=L 1.2=L 1.26=L
    .6=NSM 3=NSM 1.2=NSM 1.7=NSM =L =NSM 8.a=L 6.6=L 1.2=L 1.25=L 1.2=NSM 1.2=L =NSM =L =NSM =L
    7.a=L 136.13=L .2=NSM .4=L 7.2=NSM .f=L 1.24=L .5=NSM 3.2=L =NSM =L =NSM .17=L 56=L f.15=L .8=ON
    .4=ET .11=ON d.39b=L 66.6f=L 1.5=L b.c4=L a4c.63=L d.440=L =NSM .6=L .f=NSM faa.247=L 21b9.239=L
    7.1f=L 1.a=L 4.51=L 1.a=L 6.1e=L 2.5=NSM =L a.30=L .7=NSM .f=L a.a=L 1.7=L 1.15=L 5.13=L
    2b0.5b=L 65.4b=L 4=NSM .38=L 7.4=NSM .d=L 40.2=L =ON =L =NSM b.2=L e.17f8=L 8.4d6=L 2a.9=L
    22e7.4=L 1.7=L 1.2=L 1.123=L f=L 1d.3=L 2=L e.4=L 8.18c=L 904.6b=L 5.d=L 3.9=L 7.a=L 2=L .2=NSM
    =L .4=BN 125c.2e=NSM 2.17=NSM 9.74=L 3c.f6=L a.27=L 2.3e=L .3=NSM .9=L .8=BN .8=NSM .2=L .7=NSM
    .1e=L .4=NSM .3b=L .2=ON 15.42=ON .3=NSM =ON 7a.14=L c.14=L c.57=ON 9.19=L 87.55=L 1.47=L 1.2=L
    2=L 2.2=L 2.4=L 1.c=L 1=L 1.7=L 1.41=L 1.4=L 2.8=L 1.7=L 1.1c=L 1.4=L 1.5=L 1=L 3.7=L 1.154=L
    2.33=L =ON .39=L =ON .39=L =ON .39=L =ON .39=L =ON .8=L 2.32=EN .200=L .37=NSM .4=L .32=NSM .8=L
    =NSM .e=L =NSM .7=L f.5=NSM 1.f=NSM 450.1f=L 6.6=L d5.7=NSM 1.11=NSM 2.7=NSM 1.2=NSM 1.5=NSM
    5.3e=L 21=NSM 70.2d=L 3.7=NSM .7=L 2.a=L 4.2=L 140.1e=L =NSM 11.2c=L .4=NSM .a=L 5=ET 1d0.1c=L
    .4=NSM .a=L 2e6.7=L 1.4=L 1.2=L 1.f=L 1.c5=R 2.9=R .7=NSM 29.44=R .7=NSM =R 4.a=R 4.2=R
    311.44=AL 4c.3d=AL c2.4=AL 1.1b=AL 1.2=AL 1=AL 2=AL 1.a=AL 1.4=AL 1=AL 1=AL 6=AL 4=AL 1=AL 1=AL
    1.3=AL 1.2=AL 1=AL 2=AL 1=AL 1=AL 1=AL 1=AL 1.2=AL 1=AL 2.4=AL 1.7=AL 1.4=AL 1.4=AL 1=AL 1.a=AL
    1.11=AL 5.3=AL 1.5=AL 1.11=AL 34.2=ON 10e.2c=ON 4.64=ON c.f=ON 2.f=ON 1.f=ON 1.25=ON a.b=EN
    .5=ON .1f=L =ON .3a=L .6=ON .3d=L =ON 38.1d=L d.2c=L 4.9=L 7.2=L e.6=ON 9a.3d8=ON 4.11=ON 3.d=ON
    3.77=ON 4.5f=ON 6.c=ON 4=ON f.c=ON 4.38=ON 8.a=ON 6.28=ON 8.1e=ON 2.2=ON 4e.154=ON c.e=ON 2.d=ON
    3.9=ON 7.2e=ON 1.7=ON 8.e=ON 4.9=ON 7.9=ON 7.93=ON 1.37=ON 25.a=EN 406.a6e0=L 20.103a=L 6.de=L
    2.1682=L e.1d31=L c1f.21e=L 5e2.134b=L 5.1060=L adc51=BN 1e.60=BN 80.f0=NSM fe10.fffe=L 2.fffe=L"

/-- How letters join with their neighbours: on the left, on the right, on both
sides, or as if they were not there. -/
def joiningTable : String :=
  "ad=T 252.70=T 113.7=T 107.2d=T 1=T 1.2=T 1.2=T 1=T 48.b=T 1=T 3=D 1.4=R =D =R =D =R .5=D .4=R
    .d=D 1.7=D =R .2=D .15=T e.2=D =T .3=R 1.3=R .10=D .12=R .26=D =R .2=D .9=R =D =R =D =R .2=D
    .2=R 1=R .7=T 2.6=T 2.2=T 1.4=T .2=R a.3=D 2=D f=T =R =T .3=D .5=R .4=D =R .9=D =R =D =R =D =R
    .2=D =R .1b=T 2=R .b=D .3=R .f=D .2=R .4=D =R =D .2=R .3=D .2=R .6=D 26.b=T 19.21=D .9=T 9=T
    18.4=T 1.9=T 1.3=T 1.5=T 12=R .5=D .2=R =D =R .a=D =R =D .3=R .3=T 4=D 1.4=D 1=R =D .2=R 5.13=R
    3=D 2.5=D =R 9.8=T .a=D .3=R 1=R .2=D .2=R .6=D =R .f=D 1.18=T 1.20=T 37=T 1=T 4.8=T 4=T 3.7=T
    a.2=T 1d=T 3a=T 4.4=T 8=T 14.2=T 1a=T 2.2=T 39=T 4.2=T 4.2=T 2.3=T 3=T 1e.2=T 3=T b.2=T 39=T
    4.5=T 1.2=T 4=T 14.2=T 16.6=T 1=T 3a=T 2=T 1.4=T 8=T 7.2=T b.2=T 1e=T 3d=T c=T 32=T 3=T 37=T
    1.3=T 5.3=T 1.4=T 7.2=T b.2=T 1d=T 3a=T 2=T 6=T 5.2=T 14.2=T 1c.2=T 39.2=T 4.4=T 8=T 14.2=T 1d=T
    48=T 7.3=T 1=T 5a=T 2.7=T c.8=T 62=T 2.9=T b.7=T 49.2=T 1b=T 1=T 1=T 37.e=T 1.5=T 1.2=T 5.b=T
    1.24=T 9=T 66.4=T 1.6=T 1.2=T 2.2=T 19.2=T 4.3=T 10.4=T d=T 2.2=T 6=T f=T 2bf.3=T 3b2.3=T 1d.2=T
    1e.2=T 1e.2=T 40.2=T 1.7=T 8=T 2.b=T 9=T 29=D 3.3=T 1=T 10.59=D c.2=T .22=D =T =D 75.3=T 4.2=T
    9=T 6.3=T db.2=T 2=T 3a=T 1.7=T 1=T 1=T 2.8=T 6.a=T 2=T 30.1f=T 31.4=T 30=T 1.5=T 1=T 5=T 28.9=T
    c.2=T 20.4=T 2.2=T 1.3=T 38=T 1.2=T 3=T 1.3=T 3a.8=T 2.2=T 98.3=T 1.d=T 1.7=T 4=T 6=T 3.2=T
    c6.40=T 20b=T 2.2=T 1a.5=T 31.5=T 5.6=T 60.21=T bfe.3=T 8d=T 60.20=T 22a.4=T 6b.2=T 75d4.4=T
    1.a=T 20.2=T 50.2=T 110=T 3=T 4=T 19.2=T 5=T 13.32=D =L 51.2=T 1a.12=T d=T 26.8=T 19.b=T 2e.3=T
    30=T 2.4=T 2.2=T 27=T 43.6=T 2.2=T 2.2=T c=T 8=T 2f=T 33=T 1.3=T 2.2=T 5.2=T 1=T 2a.2=T 8=T ee=T
    2=T 4=T 4f30=T 2e1.10=T 10.10=T cf=T f9.3=T 201=T e2=T 95.5=T 686.3=T 1.2=T 5.4=T 28.3=T 4=T
    80.5=D =R 1=R 1.2=R 2=L .5=R .4=D =L .5=D =R .3=D =R 2=R .2=T 4.4=D =R 90=D =R =D .3=R .3=D =R
    .2=D =R =D .2=R =D =R 17.4=R .2=D 151=L .21=D =R =D .4=T 183.2=T 50.3=T 30.3=D =R .11=D 1.b=T
    .3=D =R 1b.4=D .2=R .c=D .4=T 2a=D 1.2=D .3=R 1=D .2=R .2=D =R .2=D 1=D .2=R =D 4=R =D =L 35=T
    36.f=T 29=T 2.2=T a.3=T 31.4=T 2.2=T 7=T 3d.3=T 24.5=T 1.8=T 3e=T c.2=T 34.9=T a.4=T 2=T 5f.3=T
    2=T 1.2=T 6=T 2=T 9d=T 3.8=T 15.2=T 39.2=T 3=T 25.7=T 3.5=T c3.8=T 2.3=T 1=T 17=T 54.6=T 1=T
    4.2=T 1.2=T ee.4=T 6.2=T 1.2=T 1b.2=T 55.8=T 2=T 1.2=T 6a=T 1=T 2.6=T 1=T 65.3=T 2.4=T 1.5=T
    103.9=T 1.2=T 100.2=T 1=T 4=T 90.4=T 2.2=T 4=T 20.a=T 28.6=T 2.4=T 8=T 9.6=T 2.3=T 2e.d=T 1.2=T
    196.7=T 1.6=T 1=T 52.16=T 2.7=T 1.2=T 1.2=T 7a.6=T 3=T 1.2=T 1.7=T 1=T 48.2=T 3=T 1=T 15b.2=T
    b.2=T 34.5=T 5=T 1=T 14ed.11=T 6.f=T 369a.5=T 3b.7=T 418=T 3f.4=T 51=T 4cb8.2=T 1.4=T 125c.2e=T
    2.17=T 220.3=T 9.10=T 2.7=T 1e.4=T 94.3=T 7bb.37=T 4.32=T 8=T e=T 16.5=T 1.f=T 550.7=T 1.11=T
    2.7=T 1.2=T 1.5=T 64=T a0.7=T 177=T 3d.4=T 1fc.4=T 3e0.7=T 29.44=D .8=T c16b5=T 1e.60=T 80.f0=T"

end PageExtract.Url
