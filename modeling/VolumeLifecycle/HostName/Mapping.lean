import VolumeLifecycle.Text.Composition

namespace VolumeLifecycle.HostName

/-- What becomes of the characters. `v`: they stay. `i`: they go. `p`: pairs of a character and the
one that it is replaced by, which follows it directly and stays. `s`: they are replaced by
characters that stand in a row too, from the first number on; the other number says how many more
there are than one. `m`: one character is replaced by the characters of the numbers. No character
but these may stand in a name. -/
def mappings : List Text.Run :=
  Text.Run.ofLines
    (fun kind numbers =>
      match kind, numbers with
      | 'p', more :: _ => 2 * (more + 1)
      | 's', [_, more] => more + 1
      | 's', _ => 1
      | 'm', _ => 1
      | _, numbers => Text.Run.sizeByFirst kind numbers)
  ["v40 s61.19 v24 20s20 v6 m20.308 v s61 v1 i v m20.304 v1 s32.1 m20.301 s3bc v1 m20.327 s31 s6f",
   "v m31.2044.34 m31.2044.32 m33.2044.34 v se0.16 v sf8.6 v20 p17 m69.307 v m69.6a m69.6a p1 v p2",
   "m6c.b7 m6c.b7 p3 m2bc.6e p16 sff p2 s73 v s253 p1 s254 p s256.1 p v s1dd s259 s25b p s260 s263",
   "v s269 s268 p v1 s26f s272 v s275 p2 s280 p s283 v1 p s288 p s28a.1 p1 s292 p v1 p v5 m64.17e",
   "m64.17e m64.17e m6c.6a m6c.6a m6c.6a m6e.6a m6e.6a m6e.6a p7 v p8 v m64.7a m64.7a m64.7a p",
   "s195 s1bf p13 s19e v p8 v5 s2c65 p s19a s2c66 v1 p s180 s289 s28c p4 v5f s68 s266 s6a s72 s279",
   "s27b s281 s77 s79 v1e m20.306 m20.307 m20.30a m20.328 m20.303 m20.30b v1 s263 s6c s73 s78 s295",
   "v5a s300.1 v s313 m308.301 s3b9 v8 i v1f p1 s2b9 v p 2m20.3b9 v2 s3b s3f3 4m20.301 m20.308.301",
   "s3ac sb7 s3ad.2 1s3cc 1s3cd.1 v s3b1.10 1s3c3.8 v22 s3d7 s3b2 s3b8 s3c5 s3cd s3cb s3c6 s3c0 v",
   "pb s3ba s3c1 s3c3 v s3b8 s3b5 v p s3c3 p v s37b.2 s450.f s430.1f v2f p10 v7 p1a s4cf p6 v p2f",
   "1s561.25 2v2d m565.582 v2 s56b s575 v2 1v38 6v1a 4v5 11v15 1v57 m627.674 m648.674 m6c7.674",
   "m64a.674 v63 1v2f 2v3a 2v64 ev3a 2v30 2ve 1v1b 2v 1va 5v1f 7v4a 1v74 m915.93c m916.93c",
   "m917.93c m91c.93c m921.93c m922.93c m92b.93c m92f.93c v23 1v7 2v1 2v15 1v6 1v 3v3 2v8 2v1 2v3",
   "8v 4m9a1.9bc m9a2.9bc 1m9af.9bc v3 2v18 2v2 1v5 4v1 2v15 1v6 1v ma32.a3c 1v ma38.a3c 1v1 2v",
   "1v4 4v1 2v2 3v 7ma16.a3c ma17.a3c ma1c.a3c v 1ma2b.a3c 7v10 av2 1v8 1v2 1v15 1v6 1v1 1v4 2v9",
   "1v2 1v2 2v fv3 2vb 7v6 1v2 1v7 2v1 2v15 1v6 1v1 1v4 2v8 2v1 2v2 5v4 4mb21.b3c mb22.b3c 1v4",
   "2v11 av1 1v5 3v2 1v3 3v1 1v 1v1 3v1 3v2 3vb 4v4 3v2 1v3 2v 6v ev14 5vc 1v2 1v16 1vf 2v8 1v2",
   "1v3 7v1 1v2 1v1 2v3 2v9 7v15 1v2 1v16 1v9 1v4 2v8 1v2 1v3 7v1 5v2 1v3 2v9 1v2 cvc 1v2 1v32 1v2",
   "1v5 4vf 2v19 1v2 1v11 3v17 1v8 1v 2v6 3v 4v5 1v 1v7 6v9 2v2 cv31 me4d.e32 v6 4v1c 25v1 1v 1v4",
   "1v17 1v 1vb mecd.eb2 v9 2v4 1v 1v6 1v9 2meab.e99 meab.ea1 v1 20vb sf0b v35 mf42.fb7 v3 1v3",
   "mf4c.fb7 v3 mf51.fb7 v3 mf56.fb7 v3 mf5b.fb7 vb mf40.fb5 v2 4v1 mf71.f72 v mf71.f74 mfb2.f80",
   "mfb2.f71.f80 mfb3.f80 mfb3.f71.f80 v6 mf71.f80 v10 mf92.fb7 v3 1v3 mf9c.fb7 v3 mfa1.fb7 v3",
   "mfa6.fb7 v3 mfab.fb7 vb mf90.fb5 v2 1ve 1vc 25v9f s2d00.25 1s2d27 5s2d2d 2v2b s10dc v61 i1 ve7",
   "1v3 2v6 1v 1v3 2v28 1v3 2v20 1v3 2v6 1v 1v3 2ve 1v38 1v3 2v42 2v1f 3v19 6v55 2s13f0.5 2v27f",
   "1v1b 3v58 7v15 9v17 9v13 cvc 1v2 1v1 cv33 i1 v27 2v9 6v9 6va i4 v9 6v58 7v2a 5v45 av1e 1vb 4vb",
   "4v 3v29 2v4 bv2b 4v19 6va 3v3d 2v40 1v1c 2va 6v9 6vd 2v2d 2vb 14v4c 1va5 8v3b 3ve 3v32 s432",
   "s434 s43e s441.1 s442 s44a s463 sa64b p 5s10d0.2a 2s10fd.2 v7 8v2a 5v2b s61 se6 s62 v s64.1",
   "s1dd s67.7 v s6f s223 s70 s72 s74.1 s77 s61 s250.1 s1d02 s62 s64.1 s259 s25b.1 s67 v s6b s6d",
   "s14b s6f s254 s1d16.1 s70 s74.1 s1d1d s26f s76 s1d25 s3b2.2 s3c6.1 s69 s72 s75.1 s3b2.1 s3c1",
   "s3c6.1 vc s43d v21 s252 s63 s255 sf0 s25c s66 s25f s261 s265 s268.2 s1d7b s29d s26d s1d85 s29f",
   "s271 s270 s272.3 s278 s282.1 s1ab s289.1 s1d1c s28b.1 s7a s290.2 s3b8 v3f p4a v3 m61.2be s1e61",
   "v1 sdf v p2f v7 s1f00.7 v5 2s1f10.5 2v7 s1f20.7 v7 s1f30.7 v5 2s1f40.5 2v7 1s1f51 1s1f53",
   "1s1f55 1s1f57 v7 s1f60.7 v s3ac v s3ad v s3ae v s3af v s3cc v s3cd v s3ce 2m1f00.3b9 m1f01.3b9",
   "m1f02.3b9 m1f03.3b9 m1f04.3b9 m1f05.3b9 m1f06.3b9 m1f07.3b9 m1f00.3b9 m1f01.3b9 m1f02.3b9",
   "m1f03.3b9 m1f04.3b9 m1f05.3b9 m1f06.3b9 m1f07.3b9 m1f20.3b9 m1f21.3b9 m1f22.3b9 m1f23.3b9",
   "m1f24.3b9 m1f25.3b9 m1f26.3b9 m1f27.3b9 m1f20.3b9 m1f21.3b9 m1f22.3b9 m1f23.3b9 m1f24.3b9",
   "m1f25.3b9 m1f26.3b9 m1f27.3b9 m1f60.3b9 m1f61.3b9 m1f62.3b9 m1f63.3b9 m1f64.3b9 m1f65.3b9",
   "m1f66.3b9 m1f67.3b9 m1f60.3b9 m1f61.3b9 m1f62.3b9 m1f63.3b9 m1f64.3b9 m1f65.3b9 m1f66.3b9",
   "m1f67.3b9 v1 m1f70.3b9 m3b1.3b9 m3ac.3b9 1v m1fb6.3b9 s1fb0.1 s1f70 s3ac m3b1.3b9 m20.313 s3b9",
   "m20.313 m20.342 m20.308.342 m1f74.3b9 m3b7.3b9 m3ae.3b9 1v m1fc6.3b9 s1f72 s3ad s1f74 s3ae",
   "m3b7.3b9 m20.313.300 m20.313.301 m20.313.342 v2 s390 2v1 s1fd0.1 s1f76 s3af 1m20.314.300",
   "m20.314.301 m20.314.342 v2 s3b0 v3 s1fe0.1 s1f7a s3cd s1fe5 m20.308.300 m20.308.301 s60",
   "2m1f7c.3b9 m3c9.3b9 m3ce.3b9 1v m1ff6.3b9 s1f78 s3cc s1f7c s3ce m3c9.3b9 m20.301 m20.314 1s20",
   "s20 s20 s20 s20 s20 s20 s20 s20 s20 s20 i v1 2v s2010 v4 m20.333 vb 3v 7s20 v2 m2032.2032",
   "m2032.2032.2032 v m2035.2035 m2035.2035.2035 v3 m21.21 v m20.305 v7 m3f.3f m3f.21 m21.3f vc",
   "m2032.2032.2032.2032 v6 s20 i4 5i5 s30 s69 2s34.5 s2b s2212 s3d s28.1 s6e s30.9 s2b s2212 s3d",
   "s28.1 v s61 s65 s6f s78 s259 s68 s6b.3 s70 s73.1 3v7 m72.73 v1b bv20 fm61.2f.63 m61.2f.73 s63",
   "mb0.63 v m63.2f.6f m63.2f.75 s25b v mb0.66 s67.1 s68 s68 s68 s127 s69 s69 s6c s6c v s6e m6e.6f",
   "v1 s70.2 s72 s72 v1 m73.6d m74.65.6c m74.6d v s7a v s3c9 v s7a v s6b se5 s62.1 v s65 s65.1",
   "s214e s6d s6f s5d0.3 s69 v m66.61.78 s3c0 s3b3 s3b3 s3c0 s2211 v3 s64 s64.1 s69.1 v5",
   "m31.2044.37 m31.2044.39 m31.2044.31.30 m31.2044.33 m32.2044.33 m31.2044.35 m32.2044.35",
   "m33.2044.35 m34.2044.35 m31.2044.36 m35.2044.36 m31.2044.38 m33.2044.38 m35.2044.38",
   "m37.2044.38 m31.2044 s69 m69.69 m69.69.69 m69.76 s76 m76.69 m76.69.69 m76.69.69.69 m69.78 s78",
   "m78.69 m78.69.69 s6c s63.1 s6d s69 m69.69 m69.69.69 m69.76 s76 m76.69 m76.69.69 m76.69.69.69",
   "m69.78 s78 m78.69 m78.69.69 s6c s63.1 s6d v2 p v3 m30.2044.33 v1 4v9b m222b.222b",
   "m222b.222b.222b v m222e.222e m222e.222e.222e vf7 s3008.1 vfe 16va 15s31.8 m31.30 m31.31 m31.32",
   "m31.33 m31.34 m31.35 m31.36 m31.37 m31.38 m31.39 m32.30 m28.31.29 m28.32.29 m28.33.29",
   "m28.34.29 m28.35.29 m28.36.29 m28.37.29 m28.38.29 m28.39.29 m28.31.30.29 m28.31.31.29",
   "m28.31.32.29 m28.31.33.29 m28.31.34.29 m28.31.35.29 m28.31.36.29 m28.31.37.29 m28.31.38.29",
   "m28.31.39.29 m28.32.30.29 14m28.61.29 m28.62.29 m28.63.29 m28.64.29 m28.65.29 m28.66.29",
   "m28.67.29 m28.68.29 m28.69.29 m28.6a.29 m28.6b.29 m28.6c.29 m28.6d.29 m28.6e.29 m28.6f.29",
   "m28.70.29 m28.71.29 m28.72.29 m28.73.29 m28.74.29 m28.75.29 m28.76.29 m28.77.29 m28.78.29",
   "m28.79.29 m28.7a.29 s61.19 s61.19 s30 v520 m222b.222b.222b.222b v66 m3a.3a.3d m3d.3d m3d.3d.3d",
   "v64 m2add.338 v96 2v89 s2c30.2f v2f p s26b s1d7d s27d v1 p2 s251 s271 s250 s252 v p v p v4 s6a",
   "s76 s23f.1 p31 v6 p1 v2 p 5v2c 1v 5v 2v37 7s2d61 v ev17 9v6 1v6 1v6 1v6 1v6 1v6 1v6 1v6 1v7d",
   "2v3 1cv19 1v3 s6bcd v52 s9f9f cs4e00 s4e28 s4e36 s4e3f s4e59 s4e85 s4e8c s4ea0 s4eba s513f",
   "s5165 s516b s5182 s5196 s51ab s51e0 s51f5 s5200 s529b s52f9 s5315 s531a s5338 s5341 s535c",
   "s5369 s5382 s53b6 s53c8 s53e3 s56d7 s571f s58eb s5902 s590a s5915 s5927 s5973 s5b50 s5b80",
   "s5bf8 s5c0f s5c22 s5c38 s5c6e s5c71 s5ddb s5de5 s5df1 s5dfe s5e72 s5e7a s5e7f s5ef4 s5efe",
   "s5f0b s5f13 s5f50 s5f61 s5f73 s5fc3 s6208 s6236 s624b s652f s6534 s6587 s6597 s65a4 s65b9",
   "s65e0 s65e5 s66f0 s6708 s6728 s6b20 s6b62 s6b79 s6bb3 s6bcb s6bd4 s6bdb s6c0f s6c14 s6c34",
   "s706b s722a s7236 s723b s723f s7247 s7259 s725b s72ac s7384 s7389 s74dc s74e6 s7518 s751f",
   "s7528 s7530 s758b s7592 s7676 s767d s76ae s76bf s76ee s77db s77e2 s77f3 s793a s79b8 s79be",
   "s7a74 s7acb s7af9 s7c73 s7cf8 s7f36 s7f51 s7f8a s7fbd s8001 s800c s8012 s8033 s807f s8089",
   "s81e3 s81ea s81f3 s81fc s820c s821b s821f s826e s8272 s8278 s864d s866b s8840 s884c s8863",
   "s897e s898b s89d2 s8a00 s8c37 s8c46 s8c55 s8c78 s8c9d s8d64 s8d70 s8db3 s8eab s8eca s8f9b",
   "s8fb0 s8fb5 s9091 s9149 s91c6 s91cc s91d1 s9577 s9580 s961c s96b6 s96b9 s96e8 s9751 s975e",
   "s9762 s9769 s97cb s97ed s97f3 s9801 s98a8 s98db s98df s9996 s9999 s99ac s9aa8 s9ad8 s9adf",
   "s9b25 s9b2f s9b32 s9b3c s9b5a s9ce5 s9e75 s9e7f s9ea5 s9ebb s9ec3 s9ecd s9ed1 s9ef9 s9efd",
   "s9f0e s9f13 s9f20 s9f3b s9f4a s9f52 s9f8d s9f9c s9fa0 2as20 v s2e v32 s3012 v s5341 s5344.1 v4",
   "1v55 2v1 m20.3099 m20.309a v1 m3088.308a v5e m30b3.30c8 5v2a 1s1100.1 s11aa s1102 s11ac.1",
   "s1103.2 s11b0.5 s111a s1106.2 s1121 s1109.9 s1161.14 i s1114.1 s11c7.1 s11cc s11ce s11d3 s11d7",
   "s11d9 s111c s11dd s11df s111d.1 s1120 s1122.1 s1127 s1129 s112b.4 s1132 s1136 s1140 s1147",
   "s114c s11f1.1 s1157.2 s1184.1 s1188 s1191.1 s1194 s119e s11a1 1v1 s4e00 s4e8c s4e09 s56db",
   "s4e0a s4e2d s4e0b s7532 s4e59 s4e19 s4e01 s5929 s5730 s4eba v45 avf m28.1100.29 m28.1102.29",
   "m28.1103.29 m28.1105.29 m28.1106.29 m28.1107.29 m28.1109.29 m28.110b.29 m28.110c.29",
   "m28.110e.29 m28.110f.29 m28.1110.29 m28.1111.29 m28.1112.29 m28.ac00.29 m28.b098.29",
   "m28.b2e4.29 m28.b77c.29 m28.b9c8.29 m28.bc14.29 m28.c0ac.29 m28.c544.29 m28.c790.29",
   "m28.cc28.29 m28.ce74.29 m28.d0c0.29 m28.d30c.29 m28.d558.29 m28.c8fc.29 m28.c624.c804.29",
   "m28.c624.d6c4.29 1m28.4e00.29 m28.4e8c.29 m28.4e09.29 m28.56db.29 m28.4e94.29 m28.516d.29",
   "m28.4e03.29 m28.516b.29 m28.4e5d.29 m28.5341.29 m28.6708.29 m28.706b.29 m28.6c34.29",
   "m28.6728.29 m28.91d1.29 m28.571f.29 m28.65e5.29 m28.682a.29 m28.6709.29 m28.793e.29",
   "m28.540d.29 m28.7279.29 m28.8ca1.29 m28.795d.29 m28.52b4.29 m28.4ee3.29 m28.547c.29",
   "m28.5b66.29 m28.76e3.29 m28.4f01.29 m28.8cc7.29 m28.5354.29 m28.796d.29 m28.4f11.29",
   "m28.81ea.29 m28.81f3.29 s554f s5e7c s6587 s7b8f v7 m70.74.65 m32.31 m32.32 m32.33 m32.34",
   "m32.35 m32.36 m32.37 m32.38 m32.39 m33.30 m33.31 m33.32 m33.33 m33.34 m33.35 s1100 s1102.1",
   "s1105.2 s1109 s110b.1 s110e.4 sac00 sb098 sb2e4 sb77c sb9c8 sbc14 sc0ac sc544 sc790 scc28",
   "sce74 sd0c0 sd30c sd558 mcc38.ace0 mc8fc.c758 sc6b0 v s4e00 s4e8c s4e09 s56db s4e94 s516d",
   "s4e03 s516b s4e5d s5341 s6708 s706b s6c34 s6728 s91d1 s571f s65e5 s682a s6709 s793e s540d",
   "s7279 s8ca1 s795d s52b4 s79d8 s7537 s5973 s9069 s512a s5370 s6ce8 s9805 s4f11 s5199 s6b63",
   "s4e0a s4e2d s4e0b s5de6 s53f3 s533b s5b97 s5b66 s76e3 s4f01 s8cc7 s5354 s591c m33.36 m33.37",
   "m33.38 m33.39 m34.30 m34.31 m34.32 m34.33 m34.34 m34.35 m34.36 m34.37 m34.38 m34.39 m35.30",
   "m31.6708 m32.6708 m33.6708 m34.6708 m35.6708 m36.6708 m37.6708 m38.6708 m39.6708 m31.30.6708",
   "m31.31.6708 m31.32.6708 m68.67 m65.72.67 m65.76 m6c.74.64 s30a2 s30a4 s30a6 s30a8 s30aa.1",
   "s30ad s30af s30b1 s30b3 s30b5 s30b7 s30b9 s30bb s30bd s30bf s30c1 s30c4 s30c6 s30c8 s30ca.5",
   "s30d2 s30d5 s30d8 s30db s30de.4 s30e4 s30e6 s30e8.5 s30ef.3 m4ee4.548c m30a2.30d1.30fc.30c8",
   "m30a2.30eb.30d5.30a1 m30a2.30f3.30da.30a2 m30a2.30fc.30eb m30a4.30cb.30f3.30b0 m30a4.30f3.30c1",
   "m30a6.30a9.30f3 m30a8.30b9.30af.30fc.30c9 m30a8.30fc.30ab.30fc m30aa.30f3.30b9 m30aa.30fc.30e0",
   "m30ab.30a4.30ea m30ab.30e9.30c3.30c8 m30ab.30ed.30ea.30fc m30ac.30ed.30f3 m30ac.30f3.30de",
   "m30ae.30ac m30ae.30cb.30fc m30ad.30e5.30ea.30fc m30ae.30eb.30c0.30fc m30ad.30ed",
   "m30ad.30ed.30b0.30e9.30e0 m30ad.30ed.30e1.30fc.30c8.30eb m30ad.30ed.30ef.30c3.30c8",
   "m30b0.30e9.30e0 m30b0.30e9.30e0.30c8.30f3 m30af.30eb.30bc.30a4.30ed m30af.30ed.30fc.30cd",
   "m30b1.30fc.30b9 m30b3.30eb.30ca m30b3.30fc.30dd m30b5.30a4.30af.30eb m30b5.30f3.30c1.30fc.30e0",
   "m30b7.30ea.30f3.30b0 m30bb.30f3.30c1 m30bb.30f3.30c8 m30c0.30fc.30b9 m30c7.30b7 m30c9.30eb",
   "m30c8.30f3 m30ca.30ce m30ce.30c3.30c8 m30cf.30a4.30c4 m30d1.30fc.30bb.30f3.30c8",
   "m30d1.30fc.30c4 m30d0.30fc.30ec.30eb m30d4.30a2.30b9.30c8.30eb m30d4.30af.30eb m30d4.30b3",
   "m30d3.30eb m30d5.30a1.30e9.30c3.30c9 m30d5.30a3.30fc.30c8 m30d6.30c3.30b7.30a7.30eb",
   "m30d5.30e9.30f3 m30d8.30af.30bf.30fc.30eb m30da.30bd m30da.30cb.30d2 m30d8.30eb.30c4",
   "m30da.30f3.30b9 m30da.30fc.30b8 m30d9.30fc.30bf m30dd.30a4.30f3.30c8 m30dc.30eb.30c8",
   "m30db.30f3 m30dd.30f3.30c9 m30db.30fc.30eb m30db.30fc.30f3 m30de.30a4.30af.30ed",
   "m30de.30a4.30eb m30de.30c3.30cf m30de.30eb.30af m30de.30f3.30b7.30e7.30f3 m30df.30af.30ed.30f3",
   "m30df.30ea m30df.30ea.30d0.30fc.30eb m30e1.30ac m30e1.30ac.30c8.30f3 m30e1.30fc.30c8.30eb",
   "m30e4.30fc.30c9 m30e4.30fc.30eb m30e6.30a2.30f3 m30ea.30c3.30c8.30eb m30ea.30e9",
   "m30eb.30d4.30fc m30eb.30fc.30d6.30eb m30ec.30e0 m30ec.30f3.30c8.30b2.30f3 m30ef.30c3.30c8",
   "m30.70b9 m31.70b9 m32.70b9 m33.70b9 m34.70b9 m35.70b9 m36.70b9 m37.70b9 m38.70b9 m39.70b9",
   "m31.30.70b9 m31.31.70b9 m31.32.70b9 m31.33.70b9 m31.34.70b9 m31.35.70b9 m31.36.70b9",
   "m31.37.70b9 m31.38.70b9 m31.39.70b9 m32.30.70b9 m32.31.70b9 m32.32.70b9 m32.33.70b9",
   "m32.34.70b9 m68.70.61 m64.61 m61.75 m62.61.72 m6f.76 m70.63 m64.6d m64.6d.32 m64.6d.33 m69.75",
   "m5e73.6210 m662d.548c m5927.6b63 m660e.6cbb m682a.5f0f.4f1a.793e m70.61 m6e.61 m3bc.61 m6d.61",
   "m6b.61 m6b.62 m6d.62 m67.62 m63.61.6c m6b.63.61.6c m70.66 m6e.66 m3bc.66 m3bc.67 m6d.67 m6b.67",
   "m68.7a m6b.68.7a m6d.68.7a m67.68.7a m74.68.7a m3bc.6c m6d.6c m64.6c m6b.6c m66.6d m6e.6d",
   "m3bc.6d m6d.6d m63.6d m6b.6d m6d.6d.32 m63.6d.32 m6d.32 m6b.6d.32 m6d.6d.33 m63.6d.33 m6d.33",
   "m6b.6d.33 m6d.2215.73 m6d.2215.73.32 m70.61 m6b.70.61 m6d.70.61 m67.70.61 m72.61.64",
   "m72.61.64.2215.73 m72.61.64.2215.73.32 m70.73 m6e.73 m3bc.73 m6d.73 m70.76 m6e.76 m3bc.76",
   "m6d.76 m6b.76 m6d.76 m70.77 m6e.77 m3bc.77 m6d.77 m6b.77 m6d.77 m6b.3c9 m6d.3c9 1m62.71 m63.63",
   "m63.64 m63.2215.6b.67 1m64.62 m67.79 m68.61 m68.70 m69.6e m6b.6b m6b.6d m6b.74 m6c.6d m6c.6e",
   "m6c.6f.67 m6c.78 m6d.62 m6d.69.6c m6d.6f.6c m70.68 1m70.70.6d m70.72 m73.72 m73.76 m77.62",
   "m76.2215.6d m61.2215.6d m31.65e5 m32.65e5 m33.65e5 m34.65e5 m35.65e5 m36.65e5 m37.65e5",
   "m38.65e5 m39.65e5 m31.30.65e5 m31.31.65e5 m31.32.65e5 m31.33.65e5 m31.34.65e5 m31.35.65e5",
   "m31.36.65e5 m31.37.65e5 m31.38.65e5 m31.39.65e5 m32.30.65e5 m32.31.65e5 m32.32.65e5",
   "m32.33.65e5 m32.34.65e5 m32.35.65e5 m32.36.65e5 m32.37.65e5 m32.38.65e5 m32.39.65e5",
   "m33.30.65e5 m33.31.65e5 m67.61.6c v708c 3v36 9v15b 14p16 v11 pd s44a s44c v59 8v21 p6 v1 p1e",
   "sa76f v7 p1 s1d79 p4 v2 p s265 v1 p1 v1 p9 s266 s25c s261 s26c s26a v s29e s287 s29d sab53 p7",
   "sa794 s282 s1d8e p1 s264 p7 s19b s277 13s73 s63 s66 s71 p v s127 s153 v32 3v9 6v37 8v45 8vb",
   "6v73 bv1d 3v4d 1va 4v20 1v36 9vd 2v9 2v66 18v1b av5 2v5 2v5 9v6 1v6 1v2b sa727 sab37 s26b",
   "sab52 v8 s28d v1 sab4b.1 2s13a0.4f v2d 2v9 6v2ba3 cv16 4v30 2104s8c48 s66f4 s8eca s8cc8 s6ed1",
   "s4e32 s53e5 s9f9c s9f9c s5951 s91d1 s5587 s5948 s61f6 s7669 s7f85 s863f s87ba s88f8 s908f",
   "s6a02 s6d1b s70d9 s73de s843d s916a s99f1 s4e82 s5375 s6b04 s721b s862d s9e1e s5d50 s6feb",
   "s85cd s8964 s62c9 s81d8 s881f s5eca s6717 s6d6a s72fc s90ce s4f86 s51b7 s52de s64c4 s6ad3",
   "s7210 s76e7 s8001 s8606 s865c s8def s9732 s9b6f s9dfa s788c s797f s7da0 s83c9 s9304 s9e7f",
   "s8ad6 s58df s5f04 s7c60 s807e s7262 s78ca s8cc2 s96f7 s58d8 s5c62 s6a13 s6dda s6f0f s7d2f",
   "s7e37 s964b s52d2 s808b s51dc s51cc s7a1c s7dbe s83f1 s9675 s8b80 s62cf s6a02 s8afe s4e39",
   "s5be7 s6012 s7387 s7570 s5317 s78fb s4fbf s5fa9 s4e0d s6ccc s6578 s7d22 s53c3 s585e s7701",
   "s8449 s8aaa s6bba s8fb0 s6c88 s62fe s82e5 s63a0 s7565 s4eae s5169 s51c9 s6881 s7ce7 s826f",
   "s8ad2 s91cf s52f5 s5442 s5973 s5eec s65c5 s6ffe s792a s95ad s9a6a s9e97 s9ece s529b s66c6",
   "s6b77 s8f62 s5e74 s6190 s6200 s649a s6f23 s7149 s7489 s79ca s7df4 s806f s8f26 s84ee s9023",
   "s934a s5217 s52a3 s54bd s70c8 s88c2 s8aaa s5ec9 s5ff5 s637b s6bae s7c3e s7375 s4ee4 s56f9",
   "s5be7 s5dba s601c s73b2 s7469 s7f9a s8046 s9234 s96f6 s9748 s9818 s4f8b s79ae s91b4 s96b8",
   "s60e1 s4e86 s50da s5bee s5c3f s6599 s6a02 s71ce s7642 s84fc s907c s9f8d s6688 s962e s5289",
   "s677b s67f3 s6d41 s6e9c s7409 s7559 s786b s7d10 s985e s516d s622e s9678 s502b s5d19 s6dea",
   "s8f2a s5f8b s6144 s6817 s7387 s9686 s5229 s540f s5c65 s6613 s674e s68a8 s6ce5 s7406 s75e2",
   "s7f79 s88cf s88e1 s91cc s96e2 s533f s6eba s541d s71d0 s7498 s85fa s96a3 s9c57 s9e9f s6797",
   "s6dcb s81e8 s7acb s7b20 s7c92 s72c0 s7099 s8b58 s4ec0 s8336 s523a s5207 s5ea6 s62d3 s7cd6",
   "s5b85 s6d1e s66b4 s8f3b s884c s964d s898b s5ed3 s5140 s55c0 v1 s585a v s6674 v1 s51de s732a",
   "s76ca s793c s795e s7965 s798f s9756 s7cbe s7fbd v s8612 v s8af8 v1 s9038 s90fd v2 s98ef s98fc",
   "s9928 s9db4 s90de s96b7 s4fae s50e7 s514d s52c9 s52e4 s5351 s559d s5606 s5668 s5840 s58a8",
   "s5c64 s5c6e s6094 s6168 s618e s61f2 s654f s65e2 s6691 s6885 s6d77 s6e1a s6f22 s716e s722b",
   "s7422 s7891 s793e s7949 s7948 s7950 s7956 s795d s798d.1 s7a40 s7a81 s7bc0 s7df4 s7e09 s7e41",
   "s7f72 s8005 s81ed s8279 s8279 s8457 s8910 s8996 s8b01 s8b39 s8cd3 s8d08 s8fb6 s9038 s96e3",
   "s97ff s983b s6075 s242ee s8218 2s4e26 s51b5 s5168 s4f80 s5145 s5180 s52c7 s52fa s559d s5555",
   "s5599 s55e2 s585a s58b3 s5944 s5954 s5a62 s5b28 s5ed2 s5ed9 s5f69 s5fad s60d8 s614e s6108",
   "s618e s6160 s61f2 s6234 s63c4 s641c s6452 s6556 s6674 s6717 s671b s6756 s6b79 s6bba s6d41",
   "s6edb s6ecb s6f22 s701e s716e s77a7 s7235 s72af s732a s7471 s7506 s753b s761d s761f s76ca",
   "s76db s76f4 s774a s7740 s78cc s7ab1 s7bc0 s7c7b s7d5b s7df4 s7f3e s8005 s8352 s83ef s8779",
   "s8941 s8986 s8996 s8abf s8af8 s8acb s8b01 s8afe s8aed s8b39 s8b8a s8d08 s8f38 s9072 s9199",
   "s9276 s967c s96e3 s9756 s97db s97ff s980b s983b s9b12 s9f9c s2284a s22844 s233d5 s3b9d s4018",
   "s4039 s25249 s25cd0 s27ed3 s9f43 s9f8e 26m66.66 m66.69 m66.6c m66.66.69 m66.66.6c m73.74",
   "m73.74 cm574.576 m574.565 m574.56b m57e.576 m574.56d 5m5d9.5b4 v m5f2.5b7 s5e2 s5d0 s5d3.1",
   "s5db.2 s5e8 s5ea s2b m5e9.5c1 m5e9.5c2 m5e9.5bc.5c1 m5e9.5bc.5c2 m5d0.5b7 m5d0.5b8 m5d0.5bc",
   "m5d1.5bc m5d2.5bc m5d3.5bc m5d4.5bc m5d5.5bc m5d6.5bc 1m5d8.5bc m5d9.5bc m5da.5bc m5db.5bc",
   "m5dc.5bc 1m5de.5bc 1m5e0.5bc m5e1.5bc 1m5e3.5bc m5e4.5bc 1m5e6.5bc m5e7.5bc m5e8.5bc m5e9.5bc",
   "m5ea.5bc m5d5.5b9 m5d1.5bf m5db.5bf m5e4.5bf m5d0.5dc s671 s671 s67b s67b s67b s67b s67e s67e",
   "s67e s67e s680 s680 s680 s680 s67a s67a s67a s67a s67f s67f s67f s67f s679 s679 s679 s679 s6a4",
   "s6a4 s6a4 s6a4 s6a6 s6a6 s6a6 s6a6 s684 s684 s684 s684 s683 s683 s683 s683 s686 s686 s686",
   "s686.1 s687 s687 s687 s68d s68d s68c s68c s68e s68e s688 s688 s698 s698 s691 s691 s6a9 s6a9",
   "s6a9 s6a9 s6af s6af s6af s6af s6b3 s6b3 s6b3 s6b3 s6b1 s6b1 s6b1 s6b1 s6ba s6ba.1 s6bb s6bb",
   "s6bb s6c0 s6c0.1 s6c1 s6c1 s6c1 s6be s6be s6be s6be s6d2 s6d2.1 s6d3 v20 s6ad s6ad s6ad s6ad",
   "s6c7 s6c7 s6c6 s6c6 s6c8 s6c8 m6c7.674 s6cb s6cb s6c5 s6c5 s6c9 s6c9 s6d0 s6d0 s6d0 s6d0 s649",
   "s649 m626.627 m626.627 m626.6d5 m626.6d5 m626.648 m626.648 m626.6c7 m626.6c7 m626.6c6 m626.6c6",
   "m626.6c8 m626.6c8 m626.6d0 m626.6d0 m626.6d0 m626.649 m626.649 m626.649 s6cc s6cc s6cc s6cc",
   "m626.62c m626.62d m626.645 m626.649 m626.64a m628.62c m628.62d m628.62e m628.645 m628.649",
   "m628.64a m62a.62c m62a.62d m62a.62e m62a.645 m62a.649 m62a.64a m62b.62c m62b.645 m62b.649",
   "m62b.64a m62c.62d m62c.645 m62d.62c m62d.645 m62e.62c m62e.62d m62e.645 m633.62c m633.62d",
   "m633.62e m633.645 m635.62d m635.645 m636.62c m636.62d m636.62e m636.645 m637.62d m637.645",
   "m638.645 m639.62c m639.645 m63a.62c m63a.645 m641.62c m641.62d m641.62e m641.645 m641.649",
   "m641.64a m642.62d m642.645 m642.649 m642.64a m643.627 m643.62c m643.62d m643.62e m643.644",
   "m643.645 m643.649 m643.64a m644.62c m644.62d m644.62e m644.645 m644.649 m644.64a m645.62c",
   "m645.62d m645.62e m645.645 m645.649 m645.64a m646.62c m646.62d m646.62e m646.645 m646.649",
   "m646.64a m647.62c m647.645 m647.649 m647.64a m64a.62c m64a.62d m64a.62e m64a.645 m64a.649",
   "m64a.64a m630.670 m631.670 m649.670 m20.64c.651 m20.64d.651 m20.64e.651 m20.64f.651",
   "m20.650.651 m20.651.670 m626.631 m626.632 m626.645 m626.646 m626.649 m626.64a m628.631",
   "m628.632 m628.645 m628.646 m628.649 m628.64a m62a.631 m62a.632 m62a.645 m62a.646 m62a.649",
   "m62a.64a m62b.631 m62b.632 m62b.645 m62b.646 m62b.649 m62b.64a m641.649 m641.64a m642.649",
   "m642.64a m643.627 m643.644 m643.645 m643.649 m643.64a m644.645 m644.649 m644.64a m645.627",
   "m645.645 m646.631 m646.632 m646.645 m646.646 m646.649 m646.64a m649.670 m64a.631 m64a.632",
   "m64a.645 m64a.646 m64a.649 m64a.64a m626.62c m626.62d m626.62e m626.645 m626.647 m628.62c",
   "m628.62d m628.62e m628.645 m628.647 m62a.62c m62a.62d m62a.62e m62a.645 m62a.647 m62b.645",
   "m62c.62d m62c.645 m62d.62c m62d.645 m62e.62c m62e.645 m633.62c m633.62d m633.62e m633.645",
   "m635.62d m635.62e m635.645 m636.62c m636.62d m636.62e m636.645 m637.62d m638.645 m639.62c",
   "m639.645 m63a.62c m63a.645 m641.62c m641.62d m641.62e m641.645 m642.62d m642.645 m643.62c",
   "m643.62d m643.62e m643.644 m643.645 m644.62c m644.62d m644.62e m644.645 m644.647 m645.62c",
   "m645.62d m645.62e m645.645 m646.62c m646.62d m646.62e m646.645 m646.647 m647.62c m647.645",
   "m647.670 m64a.62c m64a.62d m64a.62e m64a.645 m64a.647 m626.645 m626.647 m628.645 m628.647",
   "m62a.645 m62a.647 m62b.645 m62b.647 m633.645 m633.647 m634.645 m634.647 m643.644 m643.645",
   "m644.645 m646.645 m646.647 m64a.645 m64a.647 m640.64e.651 m640.64f.651 m640.650.651 m637.649",
   "m637.64a m639.649 m639.64a m63a.649 m63a.64a m633.649 m633.64a m634.649 m634.64a m62d.649",
   "m62d.64a m62c.649 m62c.64a m62e.649 m62e.64a m635.649 m635.64a m636.649 m636.64a m634.62c",
   "m634.62d m634.62e m634.645 m634.631 m633.631 m635.631 m636.631 m637.649 m637.64a m639.649",
   "m639.64a m63a.649 m63a.64a m633.649 m633.64a m634.649 m634.64a m62d.649 m62d.64a m62c.649",
   "m62c.64a m62e.649 m62e.64a m635.649 m635.64a m636.649 m636.64a m634.62c m634.62d m634.62e",
   "m634.645 m634.631 m633.631 m635.631 m636.631 m634.62c m634.62d m634.62e m634.645 m633.647",
   "m634.647 m637.645 m633.62c m633.62d m633.62e m634.62c m634.62d m634.62e m637.645 m638.645",
   "m627.64b m627.64b v11 m62a.62c.645 m62a.62d.62c m62a.62d.62c m62a.62d.645 m62a.62e.645",
   "m62a.645.62c m62a.645.62d m62a.645.62e m62c.645.62d m62c.645.62d m62d.645.64a m62d.645.649",
   "m633.62d.62c m633.62c.62d m633.62c.649 m633.645.62d m633.645.62d m633.645.62c m633.645.645",
   "m633.645.645 m635.62d.62d m635.62d.62d m635.645.645 m634.62d.645 m634.62d.645 m634.62c.64a",
   "m634.645.62e m634.645.62e m634.645.645 m634.645.645 m636.62d.649 m636.62e.645 m636.62e.645",
   "m637.645.62d m637.645.62d m637.645.645 m637.645.64a m639.62c.645 m639.645.645 m639.645.645",
   "m639.645.649 m63a.645.645 m63a.645.64a m63a.645.649 m641.62e.645 m641.62e.645 m642.645.62d",
   "m642.645.645 m644.62d.645 m644.62d.64a m644.62d.649 m644.62c.62c m644.62c.62c m644.62e.645",
   "m644.62e.645 m644.645.62d m644.645.62d m645.62d.62c m645.62d.645 m645.62d.64a m645.62c.62d",
   "m645.62c.645 m645.62e.62c m645.62e.645 v1 m645.62c.62e m647.645.62c m647.645.645 m646.62d.645",
   "m646.62d.649 m646.62c.645 m646.62c.645 m646.62c.649 m646.645.64a m646.645.649 m64a.645.645",
   "m64a.645.645 m628.62e.64a m62a.62c.64a m62a.62c.649 m62a.62e.64a m62a.62e.649 m62a.645.64a",
   "m62a.645.649 m62c.645.64a m62c.62d.649 m62c.645.649 m633.62e.649 m635.62d.64a m634.62d.64a",
   "m636.62d.64a m644.62c.64a m644.645.64a m64a.62d.64a m64a.62c.64a m64a.645.64a m645.645.64a",
   "m642.645.64a m646.62d.64a m642.645.62d m644.62d.645 m639.645.64a m643.645.64a m646.62c.62d",
   "m645.62e.64a m644.62c.645 m643.645.645 m644.62c.645 m646.62c.62d m62c.62d.64a m62d.62c.64a",
   "m645.62c.64a m641.645.64a m628.62d.64a m643.645.645 m639.62c.645 m635.645.645 m633.62e.64a",
   "m646.62c.64a v7 20m635.644.6d2 m642.644.6d2 m627.644.644.647 m627.643.628.631 m645.62d.645.62f",
   "m635.644.639.645 m631.633.648.644 m639.644.64a.647 m648.633.644.645 m635.644.649",
   "m635.644.649.20.627.644.644.647.20.639.644.64a.647.20.648.633.644.645",
   "m62c.644.20.62c.644.627.644.647 m631.6cc.627.644 v2 if s2c s3001 1s3a.1 s21 s3f s3016.1 7vf",
   "1s2014 s2013 s5f s5f s28.1 s7b s7d s3014.1 s3010.1 s300a.1 s3008.1 s300c.3 v1 s5b s5d m20.305",
   "m20.305 m20.305 m20.305 s5f s5f s5f s2c s3001 2s3b s3a s3f s21 s2014 s28.1 s7b s7d s3014.1 s23",
   "s26 s2a.1 s2d s3c s3e s3d 1s5c s24.1 s40 4m20.64b m640.64b m20.64c v m20.64d 1m20.64e m640.64e",
   "m20.64f m640.64f m20.650 m640.650 m20.651 m640.651 m20.652 m640.652 s621.1 s622.1 s623.1",
   "s624.1 s625.1 s626 s626 s626.1 s627.1 s628 s628 s628.1 s629.1 s62a s62a s62a.1 s62b s62b",
   "s62b.1 s62c s62c s62c.1 s62d s62d s62d.1 s62e s62e s62e.1 s62f.1 s630.1 s631.1 s632.1 s633",
   "s633 s633.1 s634 s634 s634.1 s635 s635 s635.1 s636 s636 s636.1 s637 s637 s637.1 s638 s638",
   "s638.1 s639 s639 s639.1 s63a s63a s63a s641 s641 s641 s641.1 s642 s642 s642.1 s643 s643 s643.1",
   "s644 s644 s644.1 s645 s645 s645.1 s646 s646 s646.1 s647 s647 s647.1 s648.1 s649.1 s64a s64a",
   "s64a m644.622 m644.622 m644.623 m644.623 m644.625 m644.625 m644.627 m644.627 2i 1s21.1f s61.19",
   "s5b.23 s2985.1 s2e s300c.1 s3001 s30fb s30f2 s30a1 s30a3 s30a5 s30a7 s30a9 s30e3 s30e5 s30e7",
   "s30c3 s30fc s30a2 s30a4 s30a6 s30a8 s30aa.1 s30ad s30af s30b1 s30b3 s30b5 s30b7 s30b9 s30bb",
   "s30bd s30bf s30c1 s30c4 s30c6 s30c8 s30ca.5 s30d2 s30d5 s30d8 s30db s30de.4 s30e4 s30e6",
   "s30e8.5 s30ef s30f3 s3099.1 i s1100.1 s11aa s1102 s11ac.1 s1103.2 s11b0.5 s111a s1106.2 s1121",
   "s1109.9 3s1161.5 2s1167.5 2s116d.5 2s1173.2 3sa2.1 sac m20.304 sa6 sa5 s20a9 1s2502 s2190.3",
   "s25a0 s25cb 11vb 1v19 1v12 1v1 1ve 2vd 22v7a 5v2 4v2c 3v57 1vc 3v 2fv2d 82v1c 3v30 fv1b 4v23",
   "9v1d 5v2a 5v1d 1v24 4vd 2as10428.27 v75 2v9 6s104d8.23 4v23 4v27 8v33 bv s10597.a 1s105a3.e",
   "1s105b3.6 1s105bb.1 1va 1ve 1v6 1v1 3v33 cv136 9v15 av7 18v s2d0.1 se6 s299 s253 1s2a3 sab66",
   "s2a5 s2a4 s256.1 s1d91 s258 s25e s2a9 s264 s262 s260 s29b s127 s29c s267 s284 s2aa.1 s26c",
   "s1df04 sa78e s26e s1df05 s28e s1df06 sf8 s276.1 s71 s27a s1df08 s27d.1 s280 s2a8 s2a6 sab67",
   "s2a7 s288 s2c71 1s28f s2a1.1 s298 s1c0.2 s1df0a s1df1e s287 s296.1 s29e s1df0b 40v5 2v 1v2b",
   "1v1 3v 2v16 1v47 8v8 30v12 1v1 5v20 3v1a 5v1a 26v37 4v13 2v31 1v1 5v7 1v2 1v1c 2v2 4v9 7v8",
   "7v3f 20v26 4vb 9v35 3v1c 2v1a 5v19 7v3 cv6 50v48 37s10cc0.32 dv32 7v2d 8v9 6vf s10d70.15 3v1c",
   "8v1 d0v1e 1v29 1v2 2v1 10v5 1v 6v1e 1v37 8v29 16v19 26v1b 14v16 9v4d 4v23 9v3d 1v4 dv18 7v9",
   "6v34 1v11 8v26 9v5f 1v13 bv11 1v2e 3ev6 1v 1v3 1ve 1va 6v3a 5v9 6v3 1v7 2v1 2v15 1v6 1v1 1v4",
   "1v9 2v1 2v2 2v 6v 5v6 2v6 3v4 bv9 1v 2v 1v25 1v9 1v 2v 1v3 1v9 1v1 8v1 1dv5b 1v4 1ev47 8v9",
   "a6v35 2v25 22v44 bv9 6vc 13v39 6v9 6v13 1cv1a 2ve 4v16 b9v3b 64s118c0.1f v32 cv7 2v 2v7 1v1",
   "1v1d 1v1 2vb 9v9 46v7 2v2d 2va 1bv47 8v52 dv48 7va 55v7 58v21 ev9 6v8 1v2c 1vd av1c 3v1f 2v15",
   "1vd 49v6 1v1 1v2b 3v 1v1 1v8 8v9 6v5 1v1 1v24 1v1 1v5 7v9 6v2b 4v9 6v efv18 7v10 1v28 3v1c 55v",
   "fv31 dv39a 66v143 cv136 909v62 dv42f 10v15 avf9a 5v246 1ab9v39 6c6v238 7v1e 1v9 4v50 1v9 6v1d",
   "2v5 av45 av9 1v6 1v14 5v12 1b0v39 6v2f 90s16e60.1f v3a 5s16ebb.18 2v18 2cv4a 4v38 7v10 40v4",
   "bv6 9v1cda 24v21 5fv72 dv391 ev3f 1e10v3 1v6 1v1 1v122 m3053.3068 v4 9v 1dv2 2v ev4 7v18b",
   "904v6a 5vc 3v8 7v9 2v3 i3 f5cvd5 s61.19 s30.9 v2 3v1b3 6v16 1v2 8v20 2v2d 2v16 9v73 3cvf5 av5d",
   "m1d157.1d165 m1d158.1d165 m1d158.1d165.1d16e m1d158.1d165.1d16f m1d158.1d165.1d170",
   "m1d158.1d165.1d171 m1d158.1d165.1d172 vd i7 v3f m1d1b9.1d165 m1d1ba.1d165 m1d1b9.1d165.1d16e",
   "m1d1ba.1d165.1d16e m1d1b9.1d165.1d16f m1d1ba.1d165.1d16f v84 av3f 30v13 cv13 cv56 9v18",
   "87s61.19 s61.19 s61.19 s61.6 1s69.11 s61.19 s61.19 s61 1s63.1 2s67 2s6a.1 2s6e.3 1s73.7 s61.3",
   "1s66 1s68.6 1s70.a s61.19 s61.19 s61.1 1s64.3 2s6a.7 1s73.6 1s61.19 s61.1 1s64.3 1s69.4 1s6f",
   "3s73.6 1s61.19 s61.19 s61.19 s61.19 s61.19 s61.19 s61.19 s61.19 s61.19 s61.19 s61.19 s61.19",
   "s61.19 s131 s237 m73.73 1s3b1.10 s3b8 s3c3.6 s2207 s3b1.10 s3c3 s3c3.6 s2202 s3b5 s3b8 s3ba",
   "s3c6 s3c1 s3c0 s3b1.10 s3b8 s3c3.6 s2207 s3b1.10 s3c3 s3c3.6 s2202 s3b5 s3b8 s3ba s3c6 s3c1",
   "s3c0 s3b1.10 s3b8 s3c3.6 s2207 s3b1.10 s3c3 s3c3.6 s2202 s3b5 s3b8 s3ba s3c6 s3c1 s3c0 s3b1.10",
   "s3b8 s3c3.6 s2207 s3b1.10 s3c3 s3c3.6 s2202 s3b5 s3b8 s3ba s3c6 s3c1 s3c0 s3b1.10 s3b8 s3c3.6",
   "s2207 s3b1.10 s3c3 s3c3.6 s2202 s3b5 s3b8 s3ba s3c6 s3c1 s3c0 s3dd s3dd 2s30.9 s30.9 s30.9",
   "s30.9 s30.9 v28b fv4 1ve 50vff 300v1e 6va7 s1df57 31s1df09 v6 1v10 2v6 1v1 1v4 5s430.8 s43a.2",
   "s43e.a s44b s44d.1 sa689 s4d9 s456 s458 s4e9 s4af s4cf s430.8 s43a.1 s43e.1 s441 s443.5 s44a.1",
   "s491 s456 s455 s45f s4ab sa651 s4b1 21v 70v2c 3vd 2v9 4v1 140v1e 11v39 5v 1d0v29 d6v2a 4v",
   "c0v1e 1v15 8v1 e0v6 1v3 1v1 1ve 1vc4 2vf 29s1e922.21 v29 4v9 4v1 311v43 4cv3c c2s627.1 s62c",
   "s62f 1s648 s632 s62d s637 s64a s643.3 s633 s639 s641 s635 s642 s631 s634 s62a.1 s62e s630 s636",
   "s638 s63a s66e s6ba s6a1 s66f 1s628 s62c 1s647 2s62d 1s64a s643.3 s633 s639 s641 s635 s642",
   "1s634 s62a.1 s62e 1s636 1s63a 6s62c 4s62d 1s64a 1s644 1s646 s633 s639 1s635 s642 1s634 2s62e",
   "1s636 1s63a 1s6ba 1s66f 1s628 s62c 1s647 2s62d s637 s64a s643 1s645.1 s633 s639 s641 s635 s642",
   "1s634 s62a.1 s62e 1s636 s638 s63a s66e 1s6a1 1s627.1 s62c s62f s647.1 s632 s62d s637 s64a",
   "1s644.2 s633 s639 s641 s635 s642 s631 s634 s62a.1 s62e s630 s636 s638 s63a 5s628 s62c s62f",
   "1s648 s632 s62d s637 s64a 1s644.2 s633 s639 s641 s635 s642 s631 s634 s62a.1 s62e s630 s636",
   "s638 s63a 34v1 10ev2b 4v63 cve 2ve 1ve 1v24 bm30.2c m31.2c m32.2c m33.2c m34.2c m35.2c m36.2c",
   "m37.2c m38.2c m39.2c v4 m28.61.29 m28.62.29 m28.63.29 m28.64.29 m28.65.29 m28.66.29 m28.67.29",
   "m28.68.29 m28.69.29 m28.6a.29 m28.6b.29 m28.6c.29 m28.6d.29 m28.6e.29 m28.6f.29 m28.70.29",
   "m28.71.29 m28.72.29 m28.73.29 m28.74.29 m28.75.29 m28.76.29 m28.77.29 m28.78.29 m28.79.29",
   "m28.7a.29 m3014.73.3015 s63 s72 m63.64 m77.7a v s61.19 m68.76 m6d.76 m73.64 m73.73 m70.70.76",
   "m77.63 v19 m6d.63 m6d.64 m6d.72 v22 m64.6a v1d 37v19 m307b.304b m30b3.30b3 s30b5 ds624b s5b57",
   "s53cc s30c7 s4e8c s591a s89e3 s5929 s4ea4 s6620 s7121 s6599 s524d s5f8c s518d s65b0 s521d",
   "s7d42 s751f s8ca9 s58f0 s5439 s6f14 s6295 s6355 s4e00 s4e09 s904a s5de6 s4e2d s53f3 s6307",
   "s8d70 s6253 s7981 s7a7a s5408 s6e80 s6709 s6708 s7533 s5272 s55b6 s914d 4m3014.672c.3015",
   "m3014.4e09.3015 m3014.4e8c.3015 m3014.5b89.3015 m3014.70b9.3015 m3014.6253.3015",
   "m3014.76d7.3015 m3014.52dd.3015 m3014.6557.3015 7s5f97 s53ef ev5 9av3d9 2v10 3vc 3vd9 6vb 4v1b",
   "4v37 8v9 6v27 8v1d 2vb 4v1 ev8 27v157 8vd 2vc 3v46 1v 3v11 1vc 3vb 5v92 1v5b s30.9 v 405va6df",
   "20v111d 2v168d 2v1d30 fv26d 9a2s4e3d s4e38 s4e41 s20122 s4f60 s4fae s4fbb s5002 s507a s5099",
   "s50e7 s50cf s349e s2063a s514d s5154 s5164 s5177 s2051c s34b9 s5167 s518d s2054b s5197 s51a4",
   "s4ecc s51ac s51b5 s291df s51f5 s5203 s34df s523b s5246 s5272 s5277 s3515 s52c7 s52c9 s52e4",
   "s52fa s5305.1 s5317 s5349 s5351 s535a s5373 s537d s537f s537f s537f s20a2c s7070 s53ca s53df",
   "s20b63 s53eb s53f1 s5406 s549e s5438 s5448 s5468 s54a2 s54f6 s5510 s5553 s5563 s5584 s5584",
   "s5599 s55ab s55b3 s55c2 s5716 s5606 s5717 s5651 s5674 s5207 s58ee s57ce s57f4 s580d s578b",
   "s5832 s5831 s58ac s214e4 s58f2 s58f7 s5906 s591a s5922 s5962 s216a8 s216ea s59ec s5a1b s5a27",
   "s59d8 s5a66 s36ee s36fc s5b08 s5b3e s5b3e s219c8 s5bc3 s5bd8 s5be7 s5bf3 s21b18 s5bff s5c06",
   "s5f53 s5c22 s3781 s5c60 s5c6e s5cc0 s5c8d s21de4 s5d43 s21de6 s5d6e s5d6b s5d7c s5de1.1 s382f",
   "s5dfd s5e28 s5e3d s5e69 s3862 s22183 s387c s5eb0 s5eb3 s5eb6 s5eca s2a392 s5efe s22331 s22331",
   "s8201 s5f22 s5f22 s38c7 s232b8 s261da s5f62 s5f6b s38e3 s5f9a s5fcd s5fd7 s5ff9 s6081 s393a",
   "s391c s6094 s226d4 s60c7 s6148 s614c s614e s614c s617a s618e s61b2 s61a4 s61af s61de s61f2",
   "s61f6 s6210 s621b s625d s62b1 s62d4 s6350 s22b0c s633d s62fc s6368 s6383 s63e4 s22bf1 s6422",
   "s63c5 s63a9 s3a2e s6469 s647e s649d s6477 s3a6c s654f s656c s2300a s65e3 s66f8 s6649 s3b19",
   "s6691 s3b08 s3ae4 s5192 s5195 s6700 s669c s80ad s43d9 s6717 s671b s6721 s675e s6753 s233c3",
   "s3b49 s67fa s6785 s6852 s6885 s2346d s688e s681f s6914 s3b9d s6942 s69a3 s69ea s6aa8 s236a3",
   "s6adb s3c18 s6b21 s238a7 s6b54 s3c4e s6b72 s6b9f s6bba.1 s23a8d s21d0b s23afa s6c4e s23cbc",
   "s6cbf s6ccd s6c67 s6d16 s6d3e s6d77 s6d41 s6d69 s6d78 s6d85 s23d1e s6d34 s6e2f s6e6e s3d33",
   "s6ecb s6ec7 s23ed1 s6df9 s6f6e s23f5e s23f8e s6fc6 s7039 s701e s701b s3d96 s704a s707d s7077",
   "s70ad s20525 s7145 s24263 s719c s243ab s7228 s7235 s7250 s24608 s7280 s7295 s24735 s24814",
   "s737a s738b s3eac s73a5 s3eb8 s3eb8 s7447 s745c s7471 s7485 s74ca s3f1b s7524 s24c36 s753e",
   "s24c92 s7570 s2219f s7610 s24fa1 s24fb8 s25044 s3ffc s4008 s76f4 s250f3 s250f2 s25119 s25133",
   "s771e.1 s771f s774a s4039 s778b s4046 s4096 s2541d s784e s788c s78cc s40e3 s25626 s7956 s2569a",
   "s256c5 s798f s79eb s412f s7a40 s7a4a s7a4f s2597c s25aa7 s25aa7 s7aee s4202 s25bab s7bc6 s7bc9",
   "s4227 s25c80 s7cd2 s42a0 s7ce8 s7ce3 s7d00 s25f86 s7d63 s4301 s7dc7 s7e02 s7e45 s4334 s26228",
   "s26247 s4359 s262d9 s7f7a s2633e s7f95 s7ffa s8005 s264da s26523 s8060 s265a8 s8070 s2335f",
   "s43d5 s80b2 s8103 s440b s813e s5ab5 s267a7 s267b5 s23393 s2339c s8201 s8204 s8f9e s446b s8291",
   "s828b s829d s52b3 s82b1 s82b3 s82bd s82e6 s26b3c s82e5 s831d s8363 s83ad s8323 s83bd s83e7",
   "s8457 s8353 s83ca s83cc s83dc s26c36 s26d6b s26cd5 s452b s84f1 s84f3 s8516 s273ca s8564 s26f2c",
   "s455d s4561 s26fb1 s270d2 s456b s8650 s865c s8667 s8669 s86a9 s8688 s870e s86e2 s8779 s8728",
   "s876b s8786 s45d7 s87e1 s8801 s45f9 s8860 s8863 s27667 s88d7 s88de s4635 s88fa s34bb s278ae",
   "s27966 s46be s46c7 s8aa0 s8aed s8b8a s8c55 s27ca8 s8cab s8cc1 s8d1b s8d77 s27f2f s20804 s8dcb",
   "s8dbc s8df0 s208de s8ed4 s8f38 s285d2 s285ed s9094 s90f1 s9111 s2872e s911b s9238 s92d7.1",
   "s927c s93f9 s9415 s28bfa s958b s4995 s95b7 s28d77 s49e6 s96c3 s5db2 s9723 s29145 s2921a s4a6e",
   "s4a76 s97e0 s2940a s4ab2 s29496 s980b s980b s9829 s295b6 s98e2 s4b33 s9929 s99a7 s99c2 s99fe",
   "s4bce s29b30 s9b12 s9c40 s9cfd s4cce s4ced s9d67 s2a0ce s4cf8 s2a105 s2a20e s2a291 s9ebb s4d56",
   "s9ef9 s9efe s9f05 s9f0f s9f16 s9f3b s2a600 5e2v134a 5v2129 9b86v2c3f a04c0ief"]

/-- What a character is replaced by; nothing if it may not stand in a name. -/
def replacement? (c : Char) : Option (List Char) :=
  match Text.runOf? mappings c with
  | none => none
  | some run =>
    let offset := c.toNat - run.first
    match run.kind, run.numbers with
    | 'i', _ => some []
    | 'p', _ => some [if offset % 2 = 0 then .ofNat (c.toNat + 1) else c]
    | 's', target :: _ => some [.ofNat (target + offset)]
    | 'm', targets => some (targets.map Char.ofNat)
    | _, _ => some [c]

/-- Whether a character may stand in a name and is its own replacement. -/
def isSettled (c : Char) : Bool :=
  replacement? c = some [c]

/-- A name with its characters replaced, in composed normal form; nothing if a character may not
stand in a name. -/
def mapped? (s : List Char) : Option (List Char) :=
  (s.mapM replacement?).map fun pieces => Text.composed pieces.flatten

end VolumeLifecycle.HostName
