import CommandBridge.Text.Mark

/-! The direction in which characters are written: the Unicode bidirectional classes, as far as
domain names tell them apart. -/
namespace CommandBridge.Text

inductive Direction where
  | leftToRight
  | rightToLeft
  | europeanNumber
  | arabicNumber
  /-- Takes the direction of the character that it combines with. -/
  | nonspacing
  /-- Punctuation and symbols, which go either way. -/
  | neutral
  deriving DecidableEq, Repr

/-- Letters that are written from right to left. -/
def rightToLeftLetters : List (Nat × Nat) := ranges [
  "5be 5c0 5c3 5c6 5d0-5f4 608 60b 60d 61b-64a 66d-66f 671-6d5 6e5-6e6 6ee-6ef 6fa-710 712-72f",
  "74d-7a5 7b1-7ea 7f4-7f5 7fa 7fe-815 81a 824 828 830-858 85e-88e 8a0-8c9 200f fb1d fb1f-fb28",
  "fb2a-fbc2 fbd3-fd3d fd50-fd8f fd92-fdc7 fdf0-fdfc fe70-fefc 10800-1091b 10920-10a00 10a10-10a35",
  "10a40-10ae4 10aeb-10b35 10b40-10d23 10d40-10d65 10d6f-10d8f 10e80-10ea9 10ead-10ec7 10f00-10f45",
  "10f51-10f81 10f86-10ff6 1e800-1e8cf 1e900-1e943 1e94b-1e95f 1ec71-1eebb"]

/-- Digits beyond ASCII that are written as European ones. -/
def europeanNumbers : List (Nat × Nat) := ranges [
  "b2-b3 b9 6f0-6f9 2070 2074-2079 2080-2089 2488-249b ff10-ff19 102e1-102fb 1ccf0-1ccf9",
  "1d7ce-1d7ff 1f100-1f10a 1fbf0-1fbf9"]

/-- Digits of the Arabic scripts. -/
def arabicNumbers : List (Nat × Nat) := ranges [
  "600-605 660-669 66b-66c 6dd 890-891 8e2 10d30-10d39 10e60-10e7e"]

/-- Punctuation and symbols beyond ASCII. -/
def neutrals : List (Nat × Nat) := ranges [
  "80-84 86-a9 ab-b1 b4 b6-b8 bb-bf d7 f7 2b9-2ba 2c2-2cf 2d2-2df 2e5-2ed 2ef-2ff 374-375 37e",
  "384-385 387 3f6 58a-58f 606-607 609-60a 60c 60e-60f 66a 6de 6e9 7f6-7f9 9f2-9f3 9fb af1 bf3-bfa",
  "c78-c7e e3f f3a-f3d 1390-1399 1400 169b-169c 17db 17f0-180a 180e 1940-1945 19de-19ff 1fbd",
  "1fbf-1fc1 1fcd-1fcf 1fdd-1fdf 1fed-1fef 1ffd-1ffe 200b-200d 2010-2027 202f-205e 2060-2064",
  "206a-206f 207a-207e 208a-208e 20a0-20c1 2100-2101 2103-2106 2108-2109 2114 2116-2118 211e-2123",
  "2125 2127 2129 212e 213a-213b 2140-2144 214a-214d 2150-215f 2189-2335 237b-2394 2396-2487",
  "24ea-26ab 26ad-27ff 2900-2bff 2ce5-2cea 2cf9-2cff 2e00-2fff 3001-3004 3008-3020 3030 3036-3037",
  "303d-303f 309b-309c 30a0 30fb 31c0-31ef 321d-321e 3250-325f 327c-327e 32b1-32bf 32cc-32cf",
  "3377-337a 33de-33df 33ff 4dc0-4dff a490-a4c6 a60d-a60f a673 a67e-a67f a700-a721 a788 a828-a82b",
  "a838-a839 a874-a877 ab6a-ab6b fb29 fbc3-fbd2 fd3e-fd4f fd90-fd91 fdc8-fdcf fdfd-fdff fe10-fe19",
  "fe30-fe6b feff-ff0f ff1a-ff20 ff3b-ff40 ff5b-ff65 ffe0-fffd 10101 10140-1018c 10190-101a0 1091f",
  "10b39-10b3f 10d6e 10ed0-10ed8 11052-11065 11660-1166c 11fd5-11ff1 16fe2 1bca0-1bca3 1cc00-1ccef",
  "1ccfa-1cef0 1d173-1d17a 1d1e9-1d241 1d245 1d300-1d356 1d6db 1d715 1d74f 1d789 1d7c3 1e2ff",
  "1eef0-1f0f5 1f10b-1f10f 1f12f 1f16a-1f16f 1f1ad 1f260-1fbef 1fbfa e0001-e007f"]

/-- Nonspacing marks that go from left to right all the same. -/
def leftToRightMarks : List Nat := [0xcbf, 0xcc6, 0x11a07, 0x11a08, 0x11c3f]

def direction (c : Char) : Direction :=
  let n := c.toNat
  if n < 128 then
    if c.isAlpha then .leftToRight else if c.isDigit then .europeanNumber else .neutral
  else if inRanges rightToLeftLetters n then .rightToLeft
  else if inRanges europeanNumbers n then .europeanNumber
  else if inRanges arabicNumbers n then .arabicNumber
  else if isNonspacing c && !leftToRightMarks.contains n then .nonspacing
  else if inRanges neutrals n then .neutral
  else .leftToRight

end CommandBridge.Text
