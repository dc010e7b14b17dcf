import EventRouting.Unicode.RunTable

set_option autoImplicit false

namespace EventRouting.Unicode

/-- For each script that differs as an extension: the characters it gains and those it loses. -/
def scriptExtensions : List (String × RunTable × RunTable) :=
  [("Adlam", .read "61f 640 204f 2e41", .read ""),
   ("Arabic", .read "60c 61b 61f 640 64b-655 670 204f 2e41 fd3e-fd3f 102e0-102fb", .read ""),
   ("Armenian", .read "308", .read ""),
   ("Avestan", .read "b7 2e30-2e31", .read ""),
   ("Bengali", .read "2bc 951-952 964-965 1cd0 1cd2 1cd5-1cd6 1cd8-1cea:9 1ced 1cf2 1cf5-1cf7
    a8f1", .read ""),
   ("Bopomofo", .read "2c7 2c9-2cb 2d9 3001-3003 3008-3011 3013-301f 302a-302d 3030 3037 30fb
    fe45-fe46 ff61-ff65", .read ""),
   ("Buginese", .read "a9cf", .read ""),
   ("Buhid", .read "1735-1736", .read ""),
   ("Carian", .read "b7 205a 205d 2e31", .read ""),
   ("Caucasian_Albanian", .read "304-35e:2d", .read ""),
   ("Chakma", .read "9e6-9ef 1040-1049", .read ""),
   ("Cherokee", .read "300-302 304 30b-30c 323-324 330-331", .read ""),
   ("Common", .read "", .read "b7 2bc 2c7 2c9-2cb 2cd 2d7 2d9 374 60c 61b 61f 640 964-965 10fb
    16eb-16ed 1735-1736 1802-1803 1805 1cd3 1ce1 1ce9-1cec 1cee-1cf3 1cf5-1cf7 1cfa 202f 204f 205a
    205d 2e17 2e30-2e31 2e3c 2e41 2e43 2ff0-2fff 3001-3003 3006 3008-3011 3013-301f 3030-3035 3037
    303c-303f 309b-309c 30a0 30fb-30fc 3190-319f 31c0-31e5 31ef 3220-3247 3280-32b0 32c0-32cb 32ff
    3358-3370 337b-337f 33e0-33fe a700-a707 a830-a839 a92e a9cf fd3e-fd3f fe45-fe46 ff61-ff65 ff70
    ff9e-ff9f 10100-10102 10107-10133 10137-1013f 102e1-102fb 1bca0-1bca3 1d360-1d371
    1f250-1f251"),
   ("Coptic", .read "b7 300 304-305 307 374-375 2e17 102e0-102fb", .read ""),
   ("Cypriot", .read "10100-10102 10107-10133 10137-1013f", .read ""),
   ("Cypro_Minoan", .read "10100-10101", .read ""),
   ("Cyrillic", .read "2bc 300-302 304-308:2 30b 311 485-486 1df8 2e43", .read ""),
   ("Devanagari", .read "2bc 951-952 964-965 1cd0-1cf6 1cf8-1cf9 20f0 a830-a839", .read ""),
   ("Dogra", .read "964-96f a830-a839", .read ""),
   ("Duployan", .read "b7 307-308 30a 323-324 2e3c 1bca0-1bca3", .read ""),
   ("Elbasan", .read "b7 305", .read ""),
   ("Ethiopic", .read "30e", .read ""),
   ("Georgian", .read "b7 589 10fb 205a 2e31", .read ""),
   ("Glagolitic", .read "b7 303 305 484 487 589 10fb 205a 2e43 a66f", .read ""),
   ("Gothic", .read "b7 304-305 308 331", .read ""),
   ("Grantha", .read "951-952 964-965 be6-bf3 1cd0 1cd2-1cd3 1cf2-1cf4 1cf8-1cf9 20f0 1133b
    11fd0-11fd1 11fd3", .read ""),
   ("Greek", .read "b7 300-301 304-308:2 313 342 345 374 1dc0-1dc1 205d", .read ""),
   ("Gujarati", .read "951-952 964-965 a830-a839", .read ""),
   ("Gunjala_Gondi", .read "b7 964-965", .read ""),
   ("Gurmukhi", .read "951-952 964-965 a830-a839", .read ""),
   ("Han", .read "b7 2ff0-2fff 3001-3003 3006 3008-3011 3013-301f 302a-302d 3030 3037 303c-303f 30fb
    3190-319f 31c0-31e5 31ef 3220-3247 3280-32b0 32c0-32cb 32ff 3358-3370 337b-337f 33e0-33fe
    a700-a707 fe45-fe46 ff61-ff65 1d360-1d371 1f250-1f251", .read ""),
   ("Hangul", .read "3001-3003 3008-3011 3013-301f 3030 3037 30fb fe45-fe46 ff61-ff65", .read ""),
   ("Hanifi_Rohingya", .read "60c 61b 61f 640 6d4", .read ""),
   ("Hanunoo", .read "1735-1736", .read ""),
   ("Hebrew", .read "307-308", .read ""),
   ("Hiragana", .read "3001-3003 3008-3011 3013-301f 3030-3035 3037 303c-303d 3099-309c 30a0
    30fb-30fc fe45-fe46 ff61-ff65 ff70 ff9e-ff9f", .read ""),
   ("Inherited", .read "", .read "300-30e 310-311 313 323-325 32d-32e 330-331 342 345 358 35e
    363-36f 485-486 64b-655 670 951-952 1cd0-1cd2 1cd4-1ce0 1ce2-1ce8 1ced 1cf4 1cf8-1cf9 1dc0-1dc1
    1df8 1dfa 20f0 302a-302d 3099-309a 102e0 1133b"),
   ("Javanese", .read "a9cf", .read ""),
   ("Kaithi", .read "966-96f 2e31 a830-a839", .read ""),
   ("Kannada", .read "951-952 964-965 1cd0 1cd2-1cd3 1cda 1cf2 1cf4 a830-a835", .read ""),
   ("Katakana", .read "305 323 3001-3003 3008-3011 3013-301f 3030-3035 3037 303c-303d 3099-309c 30a0
    30fb-30fc fe45-fe46 ff61-ff65 ff70 ff9e-ff9f", .read ""),
   ("Kayah_Li", .read "a92e", .read ""),
   ("Khojki", .read "ae6-aef a830-a839", .read ""),
   ("Khudawadi", .read "964-965 a830-a839", .read ""),
   ("Latin", .read "b7 2bc 2c7 2c9-2cb 2cd 2d7 2d9 300-30e 310-311 313 323-325 32d-32e 330-331 358
    35e 363-36f 485-486 951-952 10fb 1df8 202f 20f0 2e17 a700-a707 a92e", .read ""),
   ("Limbu", .read "965", .read ""),
   ("Linear_A", .read "10107-10133", .read ""),
   ("Linear_B", .read "10100-10102 10107-10133 10137-1013f", .read ""),
   ("Lisu", .read "2bc 2cd 300a-300b", .read ""),
   ("Lycian", .read "205a", .read ""),
   ("Lydian", .read "b7 2e31", .read ""),
   ("Mahajani", .read "b7 964-96f a830-a839", .read ""),
   ("Malayalam", .read "951-952 964-965 1cda 1cf2 a830-a832", .read ""),
   ("Mandaic", .read "640", .read ""),
   ("Manichaean", .read "640", .read ""),
   ("Masaram_Gondi", .read "964-965", .read ""),
   ("Meroitic_Hieroglyphs", .read "205d", .read ""),
   ("Modi", .read "a830-a839", .read ""),
   ("Mongolian", .read "1802-1803 1805 202f 3001-3002 3008-300b", .read ""),
   ("Multani", .read "a66-a6f", .read ""),
   ("Myanmar", .read "a92e", .read ""),
   ("Nandinagari", .read "951 964-965 ce6-cef 1ce9 1cf2 1cfa a830-a835", .read ""),
   ("Newa", .read "951-952 1cd5 1cd7-1cd8 1ce2 1ce9-1ced:2", .read ""),
   ("Nko", .read "60c 61b 61f fd3e-fd3f", .read ""),
   ("Old_Hungarian", .read "205a 205d 2e31 2e41", .read ""),
   ("Old_Permic", .read "b7 300 306-308 313 483", .read ""),
   ("Old_Turkic", .read "205a 2e30", .read ""),
   ("Old_Uyghur", .read "640 10af2", .read ""),
   ("Oriya", .read "951-952 964-965 1cda 1cf2", .read ""),
   ("Osage", .read "301 304 30b 358", .read ""),
   ("Phags_Pa", .read "1802-1803 1805 202f 3002", .read ""),
   ("Psalter_Pahlavi", .read "640", .read ""),
   ("Runic", .read "16eb-16ed", .read ""),
   ("Samaritan", .read "2e31", .read ""),
   ("Sharada", .read "951 1cd7 1cd9 1cdc-1cdd 1ce0 1cea 1ced a830-a835 a838", .read ""),
   ("Shavian", .read "b7", .read ""),
   ("Sinhala", .read "964-965 1cf2", .read ""),
   ("Sogdian", .read "640", .read ""),
   ("Syloti_Nagri", .read "964-965 9e6-9ef", .read ""),
   ("Syriac", .read "303-304 307-308 30a 323-325 32d-32e 330-331 60c 61b-61c 61f 640 64b-655 670
    1df8 1dfa", .read ""),
   ("Tagalog", .read "1735-1736", .read ""),
   ("Tagbanwa", .read "1735-1736", .read ""),
   ("Tai_Le", .read "300-301 307-308 30c 1040-1049", .read ""),
   ("Takri", .read "964-965 a830-a839", .read ""),
   ("Tamil", .read "951-952 964-965 1cda a8f3 11301 11303 1133b-1133c", .read ""),
   ("Tangut", .read "2ff0-2fff 31ef", .read ""),
   ("Telugu", .read "951-952 964-965 1cd5-1cd6 1cd8 1cda 1cf2", .read ""),
   ("Thaana", .read "60c 61b-61c 61f 660-669 fdf2 fdfd", .read ""),
   ("Thai", .read "2bc 2d7 303 331", .read ""),
   ("Tibetan", .read "3008-300b", .read ""),
   ("Tifinagh", .read "302 304 306-309 323", .read ""),
   ("Tirhuta", .read "951-952 964-965 1cd5 1ce2 1cf2 a830-a839", .read ""),
   ("Toto", .read "2bc", .read ""),
   ("Yezidi", .read "60c 61b 61f 660-669", .read ""),
   ("Yi", .read "3001-3002 3008-3011 3014-301b 30fb ff61-ff65", .read ""),
   ("Garay", .read "60c 61b 61f", .read ""),
   ("Gurung_Khema", .read "965", .read ""),
   ("Ol_Onal", .read "964-965", .read ""),
   ("Sunuwar", .read "300-301 303 30d 310 32d 331", .read ""),
   ("Todhri", .read "301-307:3 311 313 35e", .read ""),
   ("Tulu_Tigalari", .read "ce6-cef 1cf2 1cf4 a830-a835 a8f1", .read "")]

end EventRouting.Unicode
