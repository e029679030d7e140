import DocumentDb.Pattern.Unicode.Property

/-!
# Breaks in texts

Three properties say where texts break into user-perceived characters, words and sentences. Each
gives every character one value; the tables list the values that have names of their own, each as a
property of the characters that have it.
-/

namespace DocumentDb.Pattern.Break

/-- The values that set where user-perceived characters break. -/
def grapheme : List CharProperty :=
  [⟨["cn", "control"], ["zl", "zp", "cc", "cf"],
    ["2065 fff0-fff8 e0000 e0002-e001f e0080-e00ff e01f0-e0fff"],
    ["a d 600-605 6dd 70f 890-891 8e2 200c-200d 110bd 110cd e0020-e007f"]⟩,
   ⟨["cr"], [],
    ["d"],
    []⟩,
   ⟨["ex", "extend"], ["mn", "me"],
    ["9be 9d7 b3e b57 bbe bd7 cc0 cc2 cc7-cc8 cca-ccb cd5-cd6 d3e d57 dcf ddf 1715 1734 1b35",
     "1b3b 1b3d 1b43-1b44 1baa 1bf2-1bf3 200c 302e-302f a953 a9c0 ff9e-ff9f 111c0 11235 1133e",
     "1134d 11357 113b8 113c2 113c5 113c7-113c9 113cf 114b0 114bd 115af 116b6 11930 1193d 11f41",
     "16ff0-16ff1 1d165-1d166 1d16d-1d172 1f3fb-1f3ff e0020-e007f"],
    []⟩,
   ⟨["l"], [],
    ["1100-115f a960-a97c"],
    []⟩,
   ⟨["lf"], [],
    ["a"],
    []⟩,
   ⟨["lv"], [],
    ["ac00-d788/28"],
    []⟩,
   ⟨["lvt"], [],
    ["ac00-d7a3"],
    ["ac00-d788/28"]⟩,
   ⟨["pp", "prepend"], [],
    ["600-605 6dd 70f 890-891 8e2 d4e 110bd 110cd 111c2-111c3 113d1 1193f 11941 11a3a",
     "11a84-11a89 11d46 11f02"],
    []⟩,
   ⟨["ri", "regionalindicator"], [],
    ["1f1e6-1f1ff"],
    []⟩,
   ⟨["sm", "spacingmark"], ["mc"],
    ["e33 eb3"],
    ["9be 9d7 b3e b57 bbe bd7 cc0 cc2 cc7-cc8 cca-ccb cd5-cd6 d3e d57 dcf ddf 102b-102c 1038",
     "1062-1064 1067-106d 1083 1087-108c 108f 109a-109c 1715 1734 1a61 1a63-1a64 1b35 1b3b 1b3d",
     "1b43-1b44 1baa 1bf2-1bf3 302e-302f a953 a9c0 aa7b aa7d 111c0 11235 1133e 1134d 11357 113b8",
     "113c2 113c5 113c7-113c9 113cf 114b0 114bd 115af 116b6 11720-11721 11930 1193d 11f41",
     "16ff0-16ff1 1d165-1d166 1d16d-1d172"]⟩,
   ⟨["t"], [],
    ["11a8-11ff d7cb-d7fb"],
    []⟩,
   ⟨["v"], [],
    ["1160-11a7 d7b0-d7c6 16d63 16d67-16d6a"],
    []⟩,
   ⟨["zwj"], [],
    ["200d"],
    []⟩]

/-- The values that set where words break. -/
def word : List CharProperty :=
  [⟨["le", "aletter"], ["lu", "ll", "lt", "lm", "lo", "nl"],
    ["b8 2c2-2c5 2d2-2d7 2de-2df 2e5-2eb 2ed 2ef-2ff 55a-55c 55e 58a 5f3 70f 24b6-24e9 a708-a716",
     "a720-a721 a789-a78a ab5b 1f130-1f149 1f150-1f169 1f170-1f189"],
    ["5d0-5ea 5ef-5f2 e01-e30 e32-e33 e40-e46 e81-e82 e84 e86-e8a e8c-ea3 ea5 ea7-eb0 eb2-eb3",
     "ebd ec0-ec4 ec6 edc-edf 1000-102a 103f 1050-1055 105a-105d 1061 1065-1066 106e-1070",
     "1075-1081 108e 1780-17b3 17d7 17dc 1950-196d 1970-1974 1980-19ab 19b0-19c9 1a20-1a54 1aa7",
     "3006-3007 3021-3029 3031-3035 3038-303a 3041-3096 309d-309f 30a1-30fa 30fc-30ff 31f0-31ff",
     "3400-4dbf 4e00-9fff a9e0-a9e4 a9e6-a9ef a9fa-a9fe aa60-aa76 aa7a aa7e-aaaf aab1 aab5-aab6",
     "aab9-aabd aac0 aac2 aadb-aadd f900-fa6d fa70-fad9 fb1d fb1f-fb28 fb2a-fb36 fb38-fb3c fb3e",
     "fb40-fb41 fb43-fb44 fb46-fb4f ff66-ff9f 11700-1171a 11740-11746 17000-187f7 18800-18cd5",
     "18cff-18d08 1aff0-1aff3 1aff5-1affb 1affd-1affe 1b000-1b122 1b132 1b150-1b152 1b155",
     "1b164-1b167 1b170-1b2fb 20000-2a6df 2a700-2b739 2b740-2b81d 2b820-2cea1 2ceb0-2ebe0",
     "2ebf0-2ee5d 2f800-2fa1d 30000-3134a 31350-323af"]⟩,
   ⟨["cr"], [],
    ["d"],
    []⟩,
   ⟨["dq", "doublequote"], [],
    ["22"],
    []⟩,
   ⟨["extend"], ["mn", "mc", "me"],
    ["200c ff9e-ff9f 1f3fb-1f3ff e0020-e007f"],
    []⟩,
   ⟨["ex", "extendnumlet"], ["pc"],
    ["202f"],
    []⟩,
   ⟨["fo", "format"], ["cf"],
    [],
    ["600-605 6dd 70f 890-891 8e2 200b-200d 110bd 110cd e0020-e007f"]⟩,
   ⟨["hl", "hebrewletter"], [],
    ["5d0-5ea 5ef-5f2 fb1d fb1f-fb28 fb2a-fb36 fb38-fb3c fb3e fb40-fb41 fb43-fb44 fb46-fb4f"],
    []⟩,
   ⟨["ka", "katakana"], [],
    ["3031-3035 309b-309c 30a0-30fa 30fc-30ff 31f0-31ff 32d0-32fe 3300-3357 ff66-ff9d",
     "1aff0-1aff3 1aff5-1affb 1affd-1affe 1b000 1b120-1b122 1b155 1b164-1b167"],
    []⟩,
   ⟨["lf"], [],
    ["a"],
    []⟩,
   ⟨["ml", "midletter"], [],
    ["3a b7 387 55f 5f4 2027 fe13 fe55 ff1a"],
    []⟩,
   ⟨["mn", "midnum"], [],
    ["2c 3b 37e 589 60c-60d 66c 7f8 2044 fe10 fe14 fe50 fe54 ff0c ff1b"],
    []⟩,
   ⟨["mb", "midnumlet"], [],
    ["2e 2018-2019 2024 fe52 ff07 ff0e"],
    []⟩,
   ⟨["nl", "newline"], [],
    ["b-c 85 2028-2029"],
    []⟩,
   ⟨["nu", "numeric"], ["nd"],
    ["600-605 66b 6dd 890-891 8e2 19da 110bd 110cd"],
    []⟩,
   ⟨["ri", "regionalindicator"], [],
    ["1f1e6-1f1ff"],
    []⟩,
   ⟨["sq", "singlequote"], [],
    ["27"],
    []⟩,
   ⟨["wsegspace"], ["zs"],
    [],
    ["a0 2007 202f"]⟩,
   ⟨["zwj"], [],
    ["200d"],
    []⟩]

/-- The values that set where sentences break. -/
def sentence : List CharProperty :=
  [⟨["at", "aterm"], [],
    ["2e 2024 fe52 ff0e"],
    []⟩,
   ⟨["cl", "close"], ["ps", "pe", "pi", "pf"],
    ["22 27 275b-2760 2e00-2e01 2e06-2e08 2e0b 1f676-1f678"],
    []⟩,
   ⟨["cr"], [],
    ["d"],
    []⟩,
   ⟨["ex", "extend"], ["mn", "mc", "me"],
    ["200c-200d ff9e-ff9f e0020-e007f"],
    []⟩,
   ⟨["fo", "format"], ["cf"],
    [],
    ["600-605 6dd 890-891 8e2 200c-200d 110bd 110cd e0020-e007f"]⟩,
   ⟨["lf"], [],
    ["a"],
    []⟩,
   ⟨["lo", "lower"], ["ll"],
    ["aa ba 2b0-2b8 2c0-2c1 2e0-2e4 37a 10fc 1d2c-1d6a 1d78 1d9b-1dbf 2071 207f 2090-209c",
     "2170-217f 24d0-24e9 2c7c-2c7d a69c-a69d a770 a7f2-a7f4 a7f8-a7f9 ab5c-ab5f ab69 10780",
     "10783-10785 10787-107b0 107b2-107ba 1e030-1e06d"],
    ["10d0-10fa 10fd-10ff"]⟩,
   ⟨["nu", "numeric"], ["nd"],
    ["600-605 66b-66c 6dd 890-891 8e2 19da 110bd 110cd"],
    []⟩,
   ⟨["le", "oletter"], ["lm", "lo", "nl"],
    ["5f3 10d0-10fa 10fd-10ff 1c90-1cba 1cbd-1cbf"],
    ["aa ba 2b0-2b8 2c0-2c1 2e0-2e4 37a 10fc 1d2c-1d6a 1d78 1d9b-1dbf 2071 207f 2090-209c",
     "2160-217f 2c7c-2c7d a69c-a69d a770 a7f2-a7f4 a7f8-a7f9 ab5c-ab5f ab69 ff9e-ff9f 10780",
     "10783-10785 10787-107b0 107b2-107ba 1e030-1e06d"]⟩,
   ⟨["sc", "scontinue"], [],
    ["2c-2d 3a-3b 37e 55d 60c-60d 7f8 1802 1808 2013-2014 3001 fe10-fe11 fe13-fe14 fe31-fe32",
     "fe50-fe51 fe54-fe55 fe58 fe63 ff0c-ff0d ff1a-ff1b ff64"],
    []⟩,
   ⟨["se", "sep"], [],
    ["85 2028-2029"],
    []⟩,
   ⟨["sp", "sp"], ["zs"],
    ["9 b-c"],
    []⟩,
   ⟨["st", "sterm"], [],
    ["21 3f 589 61d-61f 6d4 700-702 7f9 837 839 83d-83e 964-965 104a-104b 1362 1367-1368 166e",
     "1735-1736 17d4-17d5 1803 1809 1944-1945 1aa8-1aab 1b4e-1b4f 1b5a-1b5b 1b5e-1b5f 1b7d-1b7f",
     "1c3b-1c3c 1c7e-1c7f 203c-203d 2047-2049 2cf9-2cfb 2e2e 2e3c 2e53-2e54 3002 a4ff a60e-a60f",
     "a6f3 a6f7 a876-a877 a8ce-a8cf a92f a9c8-a9c9 aa5d-aa5f aaf0-aaf1 abeb fe12 fe15-fe16",
     "fe56-fe57 ff01 ff1f ff61 10a56-10a57 10f55-10f59 10f86-10f89 11047-11048 110be-110c1",
     "11141-11143 111c5-111c6 111cd 111de-111df 11238-11239 1123b-1123c 112a9 113d4-113d5",
     "1144b-1144c 115c2-115c3 115c9-115d7 11641-11642 1173c-1173e 11944 11946 11a42-11a43",
     "11a9b-11a9c 11c41-11c42 11ef7-11ef8 11f43-11f44 16a6e-16a6f 16af5 16b37-16b38 16b44",
     "16d6e-16d6f 16e98 1bc9f 1da88"],
    []⟩,
   ⟨["up", "upper"], ["lu", "lt"],
    ["2160-216f 24b6-24cf 1f130-1f149 1f150-1f169 1f170-1f189"],
    ["1c90-1cba 1cbd-1cbf"]⟩]

end DocumentDb.Pattern.Break
