import VolumeLifecycle.Text.Run

namespace VolumeLifecycle.Text

/-- The combining classes of marks; every other character has the class zero. The second number of
a run is the class. -/
def combiningClasses : List Run :=
  Run.ofLines Run.sizeByFirst
  ["300k14.e6 0k.e8 0k3.dc 0k.e8 0k.d8 0k4.dc 0k1.ca 0k3.dc 0k1.ca 0ka.dc 0k4.1 0k3.dc 0k2.e6",
   "2k.e6 2k.f0 0k.e6 0k2.dc 0k2.e6 0k1.dc 1k2.e6 0k3.dc 0k.e6 0k.e8 0k1.dc 0k.e6 0k.e9 0k1.ea",
   "0k.e9 0k1.ea 0k.e9 0kc.e6 113k4.e6 109k.dc 0k3.e6 0k.dc 0k2.e6 0k.de 0k.dc 0k5.e6 0k5.dc",
   "0k1.e6 0k.dc 0k1.e6 0k.de 0k.e4 0k.e6 0k.a 0k.b 0k.c 0k.d 0k.e 0k.f 0k.10 0k.11 0k.12 0k1.13",
   "0k.14 0k.15 0k.16 1k.17 1k.18 0k.19 1k.e6 0k.dc 1k.12 48k7.e6 0k.1e 0k.1f 0k.20 30k.1b 0k.1c",
   "0k.1d 0k.1e 0k.1f 0k.20 0k.21 0k.22 0k1.e6 0k1.dc 0k4.e6 0k.dc 0k1.e6 0k.dc 10k.23 65k6.e6",
   "2k3.e6 0k.dc 0k.e6 2k1.e6 1k.dc 0k1.e6 0k.dc 23k.24 1ek.e6 0k.dc 0k1.e6 0k.dc 0k1.e6 0k2.dc",
   "0k.e6 0k1.dc 0k.e6 0k.dc 0k2.e6 0k.dc 0k.e6 0k.dc 0k.e6 0k.dc 0k.e6 0k.dc 0k1.e6 a0k6.e6 0k.dc",
   "0k.e6 9k.dc 18k3.e6 1k8.e6 1k2.e6 1k4.e6 2bk2.dc 3bk1.e6 0k2.dc 0k3.e6 2ak4.e6 0k4.dc 0kd.e6",
   "1k.dc 0k1.e6 0k.dc 0k1.e6 0k.dc 0k2.e6 0k2.dc 0k.1b 0k.1c 0k.1d 0k2.e6 0k.dc 0k1.e6 0k1.dc",
   "0k4.e6 3ck.7 10k.9 3k.e6 0k.dc 0k1.e6 67k.7 10k.9 30k.e6 3dk.7 10k.9 6ek.7 10k.9 6ek.7 10k.9",
   "7fk.9 6ek.7 10k.9 7k.54 0k.5b 65k.7 10k.9 6dk1.9 10k.9 7ck.9 6dk1.67 0k.9 dk3.6b 6ck1.76 0k.9",
   "dk3.7a 4ck1.dc 1bk.dc 1k.dc 1k.d8 37k.81 0k.82 1k.84 5k3.82 2k.82 1k1.e6 0k.9 1k1.e6 3ek.dc",
   "70k.7 1k1.9 52k.dc 2cfk2.e6 3b4k1.9 1ek.9 9dk.9 ak.e6 cbk.e4 8fk.de 0k.e6 0k.dc dbk.e6 0k.dc",
   "47k.9 14k7.e6 2k.dc 30k4.e6 0k5.dc 0k1.e6 0k.dc 1k1.dc 0k1.e6 0k1.dc 0k4.e6 0k.dc 0k11.e6",
   "0k.dc 2k5.e6 0k.dc 0k3.e6 0k.ea 48k.7 fk.9 26k.e6 0k.dc 0k6.e6 36k1.9 3ak.7 bk1.9 43k.7",
   "98k2.e6 1k.1 0k4.dc 0k1.e6 0k3.dc 0k.e6 1k6.1 4k.dc 6k.e6 3k1.e6 c6k1.e6 0k.dc 0k6.e6 0k.dc",
   "0k1.e6 0k.ea 0k.d6 0k.dc 0k.ca 0k24.e6 0k.e8 0k1.e4 0k.dc 0k.da 0k.e6 0k.e9 0k.dc 0k.e6 0k.dc",
   "2d0k1.e6 0k1.1 0k3.e6 0k2.1 0k1.e6 4k.e6 3k1.1 0k.e6 0k.dc 0k.e6 0k1.1 0k3.dc 0k.e6 bfek2.e6",
   "8dk.9 60k1f.e6 22ak.da 0k.e4 0k.e8 0k.de 0k1.e0 69k1.8 75d4k.e6 4k9.e6 20k1.e6 50k1.e6 114k.9",
   "25k.9 97k.9 1bk11.e6 39k2.dc 25k.9 5fk.7 ck.9 efk.e6 1k1.e6 0k.dc 2k1.e6 5k1.e6 1k.e6 34k.9",
   "f6k.9 4f30k.1a 301k6.e6 0k6.dc 0k1.e6 3cdk.dc e2k.dc 95k4.e6 692k.dc 1k.e6 28k.e6 0k.1 0k.dc",
   "4k.9 a5k.e6 0k.dc 23dk3.e6 41k4.e6 13dk1.e6 4dk1.dc 1k2.dc 46k1.dc 0k2.e6 0k.dc 0k.e6 0k3.dc",
   "31k.e6 0k.dc 0k.e6 0k.dc c0k.9 29k.9 ek.9 39k.9 0k.7 45k2.e6 30k1.9 3ek.7 4ck.9 9k.7 6ak.9",
   "0k.7 b2k.7 0k.9 50k1.7 10k.9 18k6.e6 3k4.e6 59k2.9 71k.9 3k.7 17k.e6 63k.9 0k.7 fbk.9 0k.7",
   "7ek.9 76k.9 0k.7 73k.9 10dk.9 0k.7 102k1.9 4k.7 9ck.9 53k.9 12k.9 51k.9 1a5k.9 102k.7 1k1.9",
   "51k.9 1a9k1.9 41eck.9 9c0k4.1 3bk6.e6 4b9k1.6 4cack.1 14c6k1.d8 0k2.1 3k.e2 0k4.d8 8k7.dc",
   "2k4.e6 0k1.dc 1ek3.e6 94k2.e6 dbbk6.e6 1k10.e6 2k6.e6 1k1.e6 1k4.e6 64k.e6 a0k6.e6 177k.e6",
   "3dk3.e6 1fck1.e8 0k.dc 0k.e6 fek.e6 0k.dc f3k.e6 2k.e6 7k1.e6 5k.e6 1dak6.dc 6dk5.e6 0k.7"]

/-- The characters that are composed of two, which are the numbers of their runs. Syllables of
Hangul are left out: they are composed by rule. -/
def composites : List Run :=
  Run.ofLines (fun _ _ => 1)
  ["c0k41.300 k41.301 k41.302 k41.303 k41.308 k41.30a 1k43.327 k45.300 k45.301 k45.302 k45.308",
   "k49.300 k49.301 k49.302 k49.308 1k4e.303 k4f.300 k4f.301 k4f.302 k4f.303 k4f.308 2k55.300",
   "k55.301 k55.302 k55.308 k59.301 2k61.300 k61.301 k61.302 k61.303 k61.308 k61.30a 1k63.327",
   "k65.300 k65.301 k65.302 k65.308 k69.300 k69.301 k69.302 k69.308 1k6e.303 k6f.300 k6f.301",
   "k6f.302 k6f.303 k6f.308 2k75.300 k75.301 k75.302 k75.308 k79.301 1k79.308 k41.304 k61.304",
   "k41.306 k61.306 k41.328 k61.328 k43.301 k63.301 k43.302 k63.302 k43.307 k63.307 k43.30c",
   "k63.30c k44.30c k64.30c 2k45.304 k65.304 k45.306 k65.306 k45.307 k65.307 k45.328 k65.328",
   "k45.30c k65.30c k47.302 k67.302 k47.306 k67.306 k47.307 k67.307 k47.327 k67.327 k48.302",
   "k68.302 2k49.303 k69.303 k49.304 k69.304 k49.306 k69.306 k49.328 k69.328 k49.307 3k4a.302",
   "k6a.302 k4b.327 k6b.327 1k4c.301 k6c.301 k4c.327 k6c.327 k4c.30c k6c.30c 4k4e.301 k6e.301",
   "k4e.327 k6e.327 k4e.30c k6e.30c 3k4f.304 k6f.304 k4f.306 k6f.306 k4f.30b k6f.30b 2k52.301",
   "k72.301 k52.327 k72.327 k52.30c k72.30c k53.301 k73.301 k53.302 k73.302 k53.327 k73.327",
   "k53.30c k73.30c k54.327 k74.327 k54.30c k74.30c 2k55.303 k75.303 k55.304 k75.304 k55.306",
   "k75.306 k55.30a k75.30a k55.30b k75.30b k55.328 k75.328 k57.302 k77.302 k59.302 k79.302",
   "k59.308 k5a.301 k7a.301 k5a.307 k7a.307 k5a.30c k7a.30c 21k4f.31b k6f.31b dk55.31b k75.31b",
   "1ck41.30c k61.30c k49.30c k69.30c k4f.30c k6f.30c k55.30c k75.30c kdc.304 kfc.304 kdc.301",
   "kfc.301 kdc.30c kfc.30c kdc.300 kfc.300 1kc4.304 ke4.304 k226.304 k227.304 kc6.304 ke6.304",
   "2k47.30c k67.30c k4b.30c k6b.30c k4f.328 k6f.328 k1ea.304 k1eb.304 k1b7.30c k292.30c k6a.30c",
   "3k47.301 k67.301 2k4e.300 k6e.300 kc5.301 ke5.301 kc6.301 ke6.301 kd8.301 kf8.301 k41.30f",
   "k61.30f k41.311 k61.311 k45.30f k65.30f k45.311 k65.311 k49.30f k69.30f k49.311 k69.311",
   "k4f.30f k6f.30f k4f.311 k6f.311 k52.30f k72.30f k52.311 k72.311 k55.30f k75.30f k55.311",
   "k75.311 k53.326 k73.326 k54.326 k74.326 2k48.30c k68.30c 6k41.307 k61.307 k45.327 k65.327",
   "kd6.304 kf6.304 kd5.304 kf5.304 k4f.307 k6f.307 k22e.304 k22f.304 k59.304 k79.304 151ka8.301",
   "k391.301 1k395.301 k397.301 k399.301 1k39f.301 1k3a5.301 k3a9.301 k3ca.301 19k399.308 k3a5.308",
   "k3b1.301 k3b5.301 k3b7.301 k3b9.301 k3cb.301 19k3b9.308 k3c5.308 k3bf.301 k3c5.301 k3c9.301",
   "4k3d2.301 k3d2.308 2bk415.300 k415.308 1k413.301 3k406.308 4k41a.301 k418.300 k423.306",
   "ak418.306 1fk438.306 16k435.300 k435.308 1k433.301 3k456.308 4k43a.301 k438.300 k443.306",
   "17k474.30f k475.30f 49k416.306 k436.306 dk410.306 k430.306 k410.308 k430.308 2k415.306",
   "k435.306 2k4d8.308 k4d9.308 k416.308 k436.308 k417.308 k437.308 2k418.304 k438.304 k418.308",
   "k438.308 k41e.308 k43e.308 2k4e8.308 k4e9.308 k42d.308 k44d.308 k423.304 k443.304 k423.308",
   "k443.308 k423.30b k443.30b k427.308 k447.308 2k42b.308 k44b.308 128k627.653 k627.654 k648.654",
   "k627.655 k64a.654 99k6d5.654 1k6c1.654 10k6d2.654 255k928.93c 7k930.93c 2k933.93c 96k9c7.9be",
   "k9c7.9d7 17bkb47.b56 2kb47.b3e kb47.b57 47kb92.bd7 35kbc6.bbe kbc7.bbe kbc6.bd7 7bkc46.c56",
   "77kcbf.cd5 6kcc6.cd5 kcc6.cd6 1kcc6.cc2 kcca.cd5 7ekd46.d3e kd47.d3e kd46.d57 8dkdd9.dca",
   "1kdd9.dcf kddc.dca kdd9.ddf 247k1025.102e adfk1b05.1b35 1k1b07.1b35 1k1b09.1b35 1k1b0b.1b35",
   "1k1b0d.1b35 3k1b11.1b35 28k1b3a.1b35 1k1b3c.1b35 2k1b3e.1b35 k1b3f.1b35 1k1b42.1b35 2bck41.325",
   "k61.325 k42.307 k62.307 k42.323 k62.323 k42.331 k62.331 kc7.301 ke7.301 k44.307 k64.307",
   "k44.323 k64.323 k44.331 k64.331 k44.327 k64.327 k44.32d k64.32d k112.300 k113.300 k112.301",
   "k113.301 k45.32d k65.32d k45.330 k65.330 k228.306 k229.306 k46.307 k66.307 k47.304 k67.304",
   "k48.307 k68.307 k48.323 k68.323 k48.308 k68.308 k48.327 k68.327 k48.32e k68.32e k49.330",
   "k69.330 kcf.301 kef.301 k4b.301 k6b.301 k4b.323 k6b.323 k4b.331 k6b.331 k4c.323 k6c.323",
   "k1e36.304 k1e37.304 k4c.331 k6c.331 k4c.32d k6c.32d k4d.301 k6d.301 k4d.307 k6d.307 k4d.323",
   "k6d.323 k4e.307 k6e.307 k4e.323 k6e.323 k4e.331 k6e.331 k4e.32d k6e.32d kd5.301 kf5.301",
   "kd5.308 kf5.308 k14c.300 k14d.300 k14c.301 k14d.301 k50.301 k70.301 k50.307 k70.307 k52.307",
   "k72.307 k52.323 k72.323 k1e5a.304 k1e5b.304 k52.331 k72.331 k53.307 k73.307 k53.323 k73.323",
   "k15a.307 k15b.307 k160.307 k161.307 k1e62.307 k1e63.307 k54.307 k74.307 k54.323 k74.323",
   "k54.331 k74.331 k54.32d k74.32d k55.324 k75.324 k55.330 k75.330 k55.32d k75.32d k168.301",
   "k169.301 k16a.308 k16b.308 k56.303 k76.303 k56.323 k76.323 k57.300 k77.300 k57.301 k77.301",
   "k57.308 k77.308 k57.307 k77.307 k57.323 k77.323 k58.307 k78.307 k58.308 k78.308 k59.307",
   "k79.307 k5a.302 k7a.302 k5a.323 k7a.323 k5a.331 k7a.331 k68.331 k74.308 k77.30a k79.30a",
   "1k17f.307 4k41.323 k61.323 k41.309 k61.309 kc2.301 ke2.301 kc2.300 ke2.300 kc2.309 ke2.309",
   "kc2.303 ke2.303 k1ea0.302 k1ea1.302 k102.301 k103.301 k102.300 k103.300 k102.309 k103.309",
   "k102.303 k103.303 k1ea0.306 k1ea1.306 k45.323 k65.323 k45.309 k65.309 k45.303 k65.303 kca.301",
   "kea.301 kca.300 kea.300 kca.309 kea.309 kca.303 kea.303 k1eb8.302 k1eb9.302 k49.309 k69.309",
   "k49.323 k69.323 k4f.323 k6f.323 k4f.309 k6f.309 kd4.301 kf4.301 kd4.300 kf4.300 kd4.309",
   "kf4.309 kd4.303 kf4.303 k1ecc.302 k1ecd.302 k1a0.301 k1a1.301 k1a0.300 k1a1.300 k1a0.309",
   "k1a1.309 k1a0.303 k1a1.303 k1a0.323 k1a1.323 k55.323 k75.323 k55.309 k75.309 k1af.301 k1b0.301",
   "k1af.300 k1b0.300 k1af.309 k1b0.309 k1af.303 k1b0.303 k1af.323 k1b0.323 k59.300 k79.300",
   "k59.323 k79.323 k59.309 k79.309 k59.303 k79.303 6k3b1.313 k3b1.314 k1f00.300 k1f01.300",
   "k1f00.301 k1f01.301 k1f00.342 k1f01.342 k391.313 k391.314 k1f08.300 k1f09.300 k1f08.301",
   "k1f09.301 k1f08.342 k1f09.342 k3b5.313 k3b5.314 k1f10.300 k1f11.300 k1f10.301 k1f11.301",
   "2k395.313 k395.314 k1f18.300 k1f19.300 k1f18.301 k1f19.301 2k3b7.313 k3b7.314 k1f20.300",
   "k1f21.300 k1f20.301 k1f21.301 k1f20.342 k1f21.342 k397.313 k397.314 k1f28.300 k1f29.300",
   "k1f28.301 k1f29.301 k1f28.342 k1f29.342 k3b9.313 k3b9.314 k1f30.300 k1f31.300 k1f30.301",
   "k1f31.301 k1f30.342 k1f31.342 k399.313 k399.314 k1f38.300 k1f39.300 k1f38.301 k1f39.301",
   "k1f38.342 k1f39.342 k3bf.313 k3bf.314 k1f40.300 k1f41.300 k1f40.301 k1f41.301 2k39f.313",
   "k39f.314 k1f48.300 k1f49.300 k1f48.301 k1f49.301 2k3c5.313 k3c5.314 k1f50.300 k1f51.300",
   "k1f50.301 k1f51.301 k1f50.342 k1f51.342 1k3a5.314 1k1f59.300 1k1f59.301 1k1f59.342 k3c9.313",
   "k3c9.314 k1f60.300 k1f61.300 k1f60.301 k1f61.301 k1f60.342 k1f61.342 k3a9.313 k3a9.314",
   "k1f68.300 k1f69.300 k1f68.301 k1f69.301 k1f68.342 k1f69.342 k3b1.300 1k3b5.300 1k3b7.300",
   "1k3b9.300 1k3bf.300 1k3c5.300 1k3c9.300 3k1f00.345 k1f01.345 k1f02.345 k1f03.345 k1f04.345",
   "k1f05.345 k1f06.345 k1f07.345 k1f08.345 k1f09.345 k1f0a.345 k1f0b.345 k1f0c.345 k1f0d.345",
   "k1f0e.345 k1f0f.345 k1f20.345 k1f21.345 k1f22.345 k1f23.345 k1f24.345 k1f25.345 k1f26.345",
   "k1f27.345 k1f28.345 k1f29.345 k1f2a.345 k1f2b.345 k1f2c.345 k1f2d.345 k1f2e.345 k1f2f.345",
   "k1f60.345 k1f61.345 k1f62.345 k1f63.345 k1f64.345 k1f65.345 k1f66.345 k1f67.345 k1f68.345",
   "k1f69.345 k1f6a.345 k1f6b.345 k1f6c.345 k1f6d.345 k1f6e.345 k1f6f.345 k3b1.306 k3b1.304",
   "k1f70.345 k3b1.345 k3ac.345 1k3b1.342 k1fb6.345 k391.306 k391.304 k391.300 1k391.345 4ka8.342",
   "k1f74.345 k3b7.345 k3ae.345 1k3b7.342 k1fc6.345 k395.300 1k397.300 1k397.345 k1fbf.300",
   "k1fbf.301 k1fbf.342 k3b9.306 k3b9.304 k3ca.300 3k3b9.342 k3ca.342 k399.306 k399.304 k399.300",
   "2k1ffe.300 k1ffe.301 k1ffe.342 k3c5.306 k3c5.304 k3cb.300 1k3c1.313 k3c1.314 k3c5.342 k3cb.342",
   "k3a5.306 k3a5.304 k3a5.300 1k3a1.314 ka8.300 4k1f7c.345 k3c9.345 k3ce.345 1k3c9.342 k1ff6.345",
   "k39f.300 1k3a9.300 1k3a9.345 19dk2190.338 k2192.338 12k2194.338 1ek21d0.338 k21d4.338",
   "k21d2.338 34k2203.338 4k2208.338 2k220b.338 17k2223.338 1k2225.338 1ak223c.338 2k2243.338",
   "2k2245.338 1k2248.338 16k3d.338 1k2261.338 ak224d.338 k3c.338 k3e.338 k2264.338 k2265.338",
   "2k2272.338 k2273.338 2k2276.338 k2277.338 6k227a.338 k227b.338 2k2282.338 k2283.338 2k2286.338",
   "k2287.338 22k22a2.338 k22a8.338 k22a9.338 k22ab.338 30k227c.338 k227d.338 k2291.338 k2292.338",
   "6k22b2.338 k22b3.338 k22b4.338 k22b5.338 d5ek304b.3099 1k304d.3099 1k304f.3099 1k3051.3099",
   "1k3053.3099 1k3055.3099 1k3057.3099 1k3059.3099 1k305b.3099 1k305d.3099 1k305f.3099",
   "1k3061.3099 2k3064.3099 1k3066.3099 1k3068.3099 6k306f.3099 k306f.309a 1k3072.3099 k3072.309a",
   "1k3075.3099 k3075.309a 1k3078.3099 k3078.309a 1k307b.3099 k307b.309a 16k3046.3099 9k309d.3099",
   "dk30ab.3099 1k30ad.3099 1k30af.3099 1k30b1.3099 1k30b3.3099 1k30b5.3099 1k30b7.3099",
   "1k30b9.3099 1k30bb.3099 1k30bd.3099 1k30bf.3099 1k30c1.3099 2k30c4.3099 1k30c6.3099",
   "1k30c8.3099 6k30cf.3099 k30cf.309a 1k30d2.3099 k30d2.309a 1k30d5.3099 k30d5.309a 1k30d8.3099",
   "k30d8.309a 1k30db.3099 k30db.309a 16k30a6.3099 2k30ef.3099 k30f0.3099 k30f1.3099 k30f2.3099",
   "3k30fd.3099 d4cak105d2.307 1ak105da.307 ab5k11099.110ba 1k1109b.110ba ek110a5.110ba",
   "82k11131.11127 k11132.11127 21bk11347.1133e k11347.11357 36k11382.113c9 1k11384.113bb",
   "8k1138b.113c2 2k11390.113c9 33k113c2.113c2 1k113c2.113b8 k113c2.113c9 f2k114b9.114ba",
   "k114b9.114b0 1k114b9.114bd fbk115b8.115af k115b9.115af 37ck11935.11930 47e8k1611e.1611e",
   "k1611e.16129 k1611e.1611f k16129.1611f k1611e.16120 k16121.1611f k16122.1611f k16121.16120",
   "c3fk16d67.16d67 k16d63.16d67 k16d69.16d67"]

def combiningClass (c : Char) : Nat :=
  match runOf? combiningClasses c with
  | some ⟨_, _, _, [_, value]⟩ => value
  | _ => 0

/-- The code point of the first syllable of Hangul. Syllables stand in the order of their leading
consonants (19), then their vowels (21), then their trailing consonants (none or one of 27), and
each of these has a row of code points of its own. -/
def firstSyllable : Nat := 0xAC00

/-- The parts of a syllable of Hangul: leading consonant, vowel, and perhaps a trailing
consonant. -/
def syllableParts? (c : Char) : Option (List Char) :=
  let index := c.toNat - firstSyllable
  if c.toNat < firstSyllable || 19 * 21 * 28 ≤ index then none
  else
    let opening := [Char.ofNat (0x1100 + index / (21 * 28)), .ofNat (0x1161 + index / 28 % 21)]
    if index % 28 = 0 then some opening else some (opening ++ [.ofNat (0x11A7 + index % 28)])

/-- The syllable of Hangul that two characters make up: a leading consonant and a vowel, or a
syllable without trailing consonant and such a consonant. -/
def syllable? (first second : Char) : Option Char :=
  let leading := first.toNat - 0x1100
  let vowel := second.toNat - 0x1161
  let opened := first.toNat - firstSyllable
  let trailing := second.toNat - 0x11A7
  if 0x1100 ≤ first.toNat && leading < 19 && 0x1161 ≤ second.toNat && vowel < 21 then
    some (.ofNat (firstSyllable + (leading * 21 + vowel) * 28))
  else if firstSyllable ≤ first.toNat && opened < 19 * 21 * 28 && opened % 28 = 0 &&
      0x11A7 < second.toNat && trailing < 28 then
    some (.ofNat (first.toNat + trailing))
  else none

def compose? (first second : Char) : Option Char :=
  match syllable? first second with
  | some c => some c
  | none =>
    (composites.find? fun r => r.numbers = [first.toNat, second.toNat]).map fun r => .ofNat r.first

/-- A character in its parts; `steps` bounds how often a first part has parts itself. -/
def decompose : Nat → Char → List Char
  | 0, c => [c]
  | steps + 1, c =>
    match syllableParts? c with
    | some parts => parts
    | none =>
      match runOf? composites c with
      | some ⟨_, _, _, [first, second]⟩ => decompose steps (.ofNat first) ++ [.ofNat second]
      | _ => [c]

/-- A text with a character put in front. A mark moves behind the marks of lower classes. -/
def insertMark (c : Char) : List Char → List Char
  | [] => [c]
  | d :: rest =>
    if combiningClass d < combiningClass c && combiningClass d ≠ 0 then d :: insertMark c rest
    else c :: d :: rest

def sortMarks (s : List Char) : List Char :=
  s.foldr insertMark []

/-- The text that is left of `s` when marks are joined to the character `base` before them.
`marks` are those between the two that could not be joined, in reverse order; a mark of the same
class among them keeps a later one from being joined. -/
def joinTo (base : Char) (marks : List Char) : List Char → List Char
  | [] => base :: marks.reverse
  | c :: rest =>
    let isBlocked := match marks with
      | [] => false
      | mark :: _ => combiningClass c ≤ combiningClass mark
    match if isBlocked then none else compose? base c with
    | some joined => joinTo joined marks rest
    | none =>
      if combiningClass c = 0 then base :: marks.reverse ++ joinTo c [] rest
      else joinTo base (c :: marks) rest

def join (s : List Char) : List Char :=
  let isMark (c : Char) := combiningClass c ≠ 0
  match s.dropWhile isMark with
  | [] => s
  | base :: rest => s.takeWhile isMark ++ joinTo base [] rest

/-- The composed normal form of a text whose characters are each in normal form: marks that may be
written in any order stand in one order, and a character with marks is one character where there is
one for it. No character has more than four parts. -/
def composed (s : List Char) : List Char :=
  join (sortMarks (s.flatMap (decompose 3)))

end VolumeLifecycle.Text
