import VolumeLifecycle.Text.Run

namespace VolumeLifecycle.HostName

def marks : List Text.Run :=
  Text.Run.ofLines Text.Run.sizeByFirst
  ["300m3f 2m 3m8 1m1f 113m6 107m2c 1m 1m1 1m1 1m2 46ma 30m14 10m 65m6 2m5 2m1 1m3 23m 1em1a 5bma",
   "3am8 9m 18m3 1m8 1m2 1m4 2bm2 3bm8 2am17 1m20 36m2 1m11 1m6 am1 1dm2 38m 1m6 2m1 2m2 9m am1",
   "1am 2m2 38m 1m4 4m1 2m2 3m 1em1 3m bm2 38m 1m7 1m2 1m2 14m1 16m5 1m2 38m 1m6 2m1 2m2 5m4 am1",
   "1em 3bm4 3m2 1m3 9m 28m4 37m 1m6 1m2 1m3 7m1 bm1 1dm2 38m 1m6 1m2 1m3 7m1 bm1 fm cm3 37m1 1m6",
   "1m2 1m3 9m am1 1dm2 46m 4m5 1m 1m7 12m1 3dm 2m6 cm7 62m 2m8 bm6 49m1 1bm 1m 1m 4m1 31m1 1m 5m6",
   "1m2 1m1 5m5 1m3 1m3 1m3 1m3 1m3 1mb 1m2 9m 64m13 17m3 4m2 1m2 2m6 3m3 dmb 1m am3 2bfm2 3b2m3",
   "1cm2 1dm1 1em1 42m1d 9m a7m1 22m 76mb 4mb dbm4 39m9 1m1c 2m 30m2d 2mb 14m4 2fm10 26m8 cm2 1emc",
   "38md 30m13 98m2 1m14 4m 6m 2m2 c6m3f 2d0m20 bfem2 8dm 60m1f 22am5 69m1 75d4m3 1m9 20m1 50m1",
   "110m 3m 4m 17m4 4m 53m1 32m11 1am11 dm 26m7 19mc 2cm3 2fmd 24m 43md cm 8m1 2dm2 32m 1m2 2m1",
   "5m1 1m 29m4 5m1 ecm7 1m1 4f30m 301mf 3cdm e2m 95m4 686m2 1m1 5m3 28m2 4m a5m1 23dm3 41m4 13dm1",
   "43mf 46ma 31m3 7am2 35me 29m 2m1 am3 2dma 7m 3dm2 24md 10m1 2cm cm2 30md 8m3 1m1 5cmb 6m 2m",
   "9dmb 15m3 37m1 1m6 2m1 2m2 9m am1 2m6 3m4 43m8 1m 2m 1m3 1m4 1m em1 52m11 17m 51m13 ebm6 2m8",
   "1bm1 52m10 6amc 65me 100me f5m5 1m1 2m3 1m 1m1 8dm6 2m6 3m 1cm9 28m6 1m3 8m 9ma 2emf c6m7 c7m7",
   "1m7 52m15 1md 7am5 3m 1m1 1m6 1m 42m4 1m1 1m4 58m 102m3 9m1 1m 30m6 3m4 17m 14e5m 6me 2cc8m11",
   "9c0m4 3bm6 418m 1m36 7m3 51m bm1 4cabm1 1261m2d 2m16 1e0m1 3cm4 3m5 8m7 2m6 1em3 94m2 7bbm36",
   "4m31 8m em 16m4 1me 550m6 1m10 2m6 1m1 1m4 64m a0m6 177m 3dm3 1fcm3 fem1 f3m 2m 7m1 5m 1dam6",
   "6dm6"]

def isMark (c : Char) : Bool :=
  (Text.runOf? marks c).isSome

/-- The directions in which characters are written. Numbers have a direction of their own, neutral
characters take that of the text, and marks that of the character before them. -/
inductive Direction where
  | leftToRight
  | rightToLeft
  | arabicNumber
  | europeanNumber
  | neutral
  | ofBase
  deriving DecidableEq

/-- The characters that are not written from left to right. `r`: from right to left. `n`: Arabic
numbers. `u`: European numbers. `o`: neutral. `m`: as the character before them. -/
def directions : List Text.Run :=
  Text.Run.ofLines Text.Run.sizeByFirst
  ["o8 5od 5oe u9 o6 1ao5 1ao4 21o6 1o 1o1 1o 1o1 4o1 3o 3o 17o 1fo 1c1o1 7od 2o5 6o1 5o8 1o10 m3f",
   "2m 3m8 1m1f 5o 80o 8cm6 100o 2o2 1m2c r m r m1 r m1 r m2 6r1a 4r5 11o1 r o1 r o r o1 ma r 1r2d",
   "m14 n9 o n1 r2 m r3 4r5c m6 1o m5 r1 m1 o m3 r1 u9 r13 2r m r1d m1a 2r58 ma r er2a m8 r1 o3 r",
   "2m r17 m3 r m8 r m2 r m4 2re 1r18 m2 2r 1ra 5r1f 7m8 r29 m17 1m1f 37m 1m 4m7 4m 3m6 am1 1dm",
   "3am 4m3 8m 14m1 eo1 7o 2m 2m1 39m 4m1 4m1 2m2 3m 1em1 3m bm1 39m 4m4 1m1 4m 14m1 do 8m5 1m 3am",
   "2m 1m3 8m 5m3 bm1 1em 3dm cm 25o7 5m 3m 37m 1m2 5m2 1m3 7m1 bm1 14o6 2m 3am fm1 14m1 1cm1 39m1",
   "4m3 8m 14m1 1dm 48m 7m2 1m 5am 2m6 4o 7m7 62m 2m8 bm6 49m1 1bm 1m 1m o3 33m1 1m 5m4 1m 1m2 1m1",
   "5m5 1m3 1m3 1m3 1m3 1m3 1mb 1m2 9m 66m3 1m5 1m1 2m1 19m1 4m2 10m3 dm 2m1 6m fm 2bfm2 30o9 66o",
   "29ao1 75m2 1dm1 1em1 1em1 43m6 8m 2ma 7o 1m 12o9 6oa 7am1 22m 76m2 4m1 9m 6m2 4o 3o1 98o21",
   "17m1 2m 3am 1m6 1m 1m 2m7 6m9 2m 30m2d 2mb 14m3 30m 1m4 30m8 cm1 20m3 2m1 1m2 38m 1m1 3m 1m2",
   "3am7 2m1 98m2 1mc 1m6 4m 6m 3m1 c6m3f 20co1 2o 1o4 1ob 3o 8o2 2o 2o3 1o 1o7 3oc 1o6 30o 10o7",
   "1o1b bm20 13o 3o bo 2o1 5o1 3o 1o 1o 1o 4o bo 6o3 5o3 3co1 4o9b 2o 2of7 2oa 45o19 1o93 16oa",
   "a0o1c0 1o152 100o10b 1o66 3o64 1o96 2o89 e5o5 4m2 7o6 7fm 60m1f o5d 2o3 1co19 1o3 1o52 10eo",
   "1o1 3o18 9m3 2o 6o 5o2 59m1 5o 5ao c4o25 1bdao3f 5690o36 146o2 5fm3 o m9 o1 1em1 50m1 eo21 66o",
   "79m 3m 4m 19m1 1o3 m bo1 3ao3 4cm1 1am11 dm 26m7 19ma 2em2 30m 2m3 2m1 27m 43m5 2m1 2m1 cm 8m",
   "2fm 33m 1m2 2m1 5m1 1m 2am1 8m 73o1 79m 2m 4m 4f30m 93r10 of 16bo11 40o1 36o7 2do2 20mf 15o1",
   "2cr 28do 3eo4c 3oc 3o 5cm e2m u1a 7am4 485r5 2r 1r2b 1r1 3r 2r16 1r47 8r8 30r12 1r1 5r20 3o",
   "r19 5r1a 26r37 4r13 2r2e m2 1m1 5m3 r3 1r2 1r1c 2m2 4m r8 7r8 7r3f 20r24 m1 4rb 9r35 3o6 r15",
   "2r1a 5r19 7r3 cr6 50r48 77r32 7r29 m3 8n9 6n9 r5 19m4 o r16 8r1 d0n1e 1r29 1m1 r 2r1 10r5 1r",
   "6o8 r15 1mf r27 8r15 ma r8 16r11 m3 r3 26r1b 14r16 am 36me bo13 am 2m1 am2 31m3 2m1 7m 3dm2",
   "24m4 1m7 3em cm1 34m8 am3 2m 5fm2 2m 1m1 6m 2m 9dm 3m7 15m1 39m1 3m 25m6 3m4 46m5 dm 1m 1m em1",
   "55m7 2m2 1m 17m 54m5 1m 4m1 1m1 eem3 6m1 1m1 1bm1 55m7 2m 1m1 1foc 3em 1m 2m5 1m 65m 1m 2m3",
   "1m4 103m8 1m1 100m1 1m 4m 90m3 2m1 4m 20m5 2m1 28m5 2m3 8m 9m5 2m2 2emc 1m1 c6m 1m2 1m c9m6",
   "1m5 54m15 2m6 1m1 1m1 7am5 3m 1m1 1m6 1m 48m1 3m 1m 58m 102m1 bm1 34m4 5m 1m 17m 7ao1c 144em",
   "6me 2cc8mb 3m2 9c0m4 3bm6 418m 3fm3 4fo 1m 4cb8m1 f61od5 24o2 3o1b3 6o16 1o2 8o20 2m2d 2m16",
   "1e0m1 3em2 11m7 2m6 1em3 3bo58 m2 o bao56 6a9m36 4m31 8m em 16m4 1me 50off 400m6 1m10 2m6 1m1",
   "1m4 64m a0m6 177m 3dm3 fo 1ecm3 fem1 f3m 2m 7m1 5m 10arc4 2r8 m6 4br21 m6 r 4r9 4r1 311r43",
   "4cr3c 1b2o1 10eo2b 4o63 coe 2oe 1oe 1o24 15o4 1fo 3do2 3do1 b1o5 9ao3d9 2o10 3oc 3od9 6ob 4o1b",
   "4o37 8o9 6o27 8o1d 2ob 4o1 eo8 27o157 8od 2oc 3o46 1o 3o11 1oc 3ob 5o92 1o5b ao"]

def directionOf (c : Char) : Direction :=
  match (Text.runOf? directions c).map Text.Run.kind with
  | some 'r' => .rightToLeft
  | some 'n' => .arabicNumber
  | some 'u' => .europeanNumber
  | some 'o' => .neutral
  | some 'm' => .ofBase
  | _ => .leftToRight

/-- How a character joins to its neighbours in a cursive script. -/
inductive Joining where
  | none
  | onLeft
  | onRight
  | onBoth
  /-- It lets its neighbours join across it. -/
  | transparent
  deriving DecidableEq

/-- The characters that join or let others join. `l`: on the left. `r`: on the right. `w`: on both
sides. `t`: transparent. -/
def joinings : List Text.Run :=
  Text.Run.ofLines Text.Run.sizeByFirst
  ["300t3f 2t 3t8 1t1f 113t6 107t2c 1t 1t1 1t1 1t2 46ta 5w 1r3 w r w r w4 r3 wc 1w6 r w1 t14 ew1 t",
   "r2 5we r11 w25 r w1 r8 w r w r w1 r1 1r t6 2t5 2t1 1t3 r1 aw2 2w 10r t w2 r4 w3 r w8 r w r w r",
   "w1 r t1a 2r wa r2 we r1 w3 r w r1 w2 r1 w5 26ta 19w20 t8 9t 18t3 1t8 1t2 1t4 12r w4 r1 w r w9",
   "r w r2 t2 4w 1w3 1r w r1 5r12 3w 2w4 r w 7t8 w9 r2 1r w1 r1 w5 r we 1t17 1t1f 37t 1t 4t7 4t",
   "3t6 at1 1dt 3at 4t3 8t 14t1 1at 2t1 39t 4t1 4t1 2t2 3t 1et1 3t bt1 39t 4t4 1t1 4t 14t1 16t5 1t",
   "3at 2t 1t3 8t 5t3 bt1 1et 3dt ct 32t 3t 37t 1t2 5t2 1t3 7t1 bt1 1dt 3at 2t 6t 5t1 14t1 1ct1",
   "39t1 4t3 8t 14t1 1dt 48t 7t2 1t 5at 2t6 ct7 62t 2t8 bt6 49t1 1bt 1t 1t 37t1 1t 5t4 1t 1t2 1t1",
   "5t5 1t3 1t3 1t3 1t3 1t3 1tb 1t2 9t 66t3 1t5 1t1 2t1 19t1 4t2 10t3 dt 2t1 6t ft 2bft2 3b2t2",
   "1dt1 1et1 1et1 43t6 8t 2ta 9t 29w 18w58 ct1 w21 t w 75t2 4t1 9t 6t2 dbt1 2t 3at 1t6 1t 1t 2t7",
   "6t9 2t 30t2d 2tb 14t3 30t 1t4 30t8 ct1 20t3 2t1 1t2 38t 1t1 3t 1t2 3at7 2t1 98t2 1tc 1t6 4t 6t",
   "3t1 c6t3f 2d0t20 bfet2 8dt 60t1f 22at3 6bt1 75d4t3 1t9 20t1 50t1 110t 3t 4t 19t1 5t 13w31 l",
   "51t1 1at11 dt 26t7 19ta 2et2 30t 2t3 2t1 27t 43t5 2t1 2t1 ct 8t 2ft 33t 1t2 2t1 5t1 1t 2at1 8t",
   "eet 2t 4t 4f30t 301tf 3cdt e2t 95t4 686t2 1t1 5t3 28t2 4t 80w4 r 1r 1r1 2l r4 w3 l w4 r w2 r",
   "2r t1 4w3 r 90w r w r2 w2 r w1 r w r1 w r 17r3 w1 151l w20 r w t3 41t4 13dt1 15r w1 1w1 11w15",
   "1tf 30w2 r w10 1ta w2 r 1bw3 r1 wb t3 2aw 1w1 r2 1w r1 w1 r w1 1w r1 w 4r w l 35t 36te 29t 2t1",
   "at2 31t3 2t1 7t 3dt2 24t4 1t7 3et ct1 34t8 at3 2t 5ft2 2t 1t1 6t 2t 9dt 3t7 15t1 39t1 3t 25t6",
   "3t4 46t5 dt 1t 1t et1 55t7 2t2 1t 17t 54t5 1t 4t1 1t1 eet3 6t1 1t1 1bt1 55t7 2t 1t1 6at 1t 2t5",
   "1t 65t 1t 2t3 1t4 103t8 1t1 100t1 1t 4t 90t3 2t1 4t 20t9 28t5 2t3 8t 9t5 2t2 2etc 1t1 c6t 1t2",
   "1t c9t6 1t5 1t 52t15 2t6 1t1 1t1 7at5 3t 1t1 1t6 1t 48t1 3t 1t 58t 102t1 bt1 34t4 5t 1t 17t",
   "14e5t 6te 2cc8tb 3t2 9c0t4 3bt6 418t 3ft3 51t 4cb8t1 1261t2d 2t16 1e0t1 3et2 11t7 2t6 1et3",
   "94t2 7bbt36 4t31 8t et 16t4 1te 550t6 1t10 2t6 1t1 1t4 64t a0t6 177t 3dt3 1fct3 fet1 f3t 2t",
   "7t1 5t 1dat6 4bw21 t7"]

def joiningOf (c : Char) : Joining :=
  match (Text.runOf? joinings c).map Text.Run.kind with
  | some 'l' => .onLeft
  | some 'r' => .onRight
  | some 'w' => .onBoth
  | some 't' => .transparent
  | _ => .none

end VolumeLifecycle.HostName
