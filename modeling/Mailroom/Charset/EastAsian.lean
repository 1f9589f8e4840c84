import Mailroom.Charset.Braced
import Mailroom.Charset.Grids.HongKong
import Mailroom.Charset.Grids.Japanese
import Mailroom.Charset.Grids.JapaneseExtension
import Mailroom.Charset.Grids.JapaneseSupplement
import Mailroom.Charset.Grids.Korean
import Mailroom.Charset.Grids.Taiwanese
import Mailroom.Charset.Switched
import Mailroom.Charset.Tabled

/-!
East Asian charsets: which sets each of them has, and where their codes are.
-/

namespace Mailroom.Charset.EastAsian

def single (b : UInt8) (count : Nat) (first : Nat) : Sheet :=
  ⟨⟨[[(b, b + count.toUInt8 - 1)]], 0⟩, { spans := [(0, first, count)] }⟩

def ascii : Sheet := single 0x00 128 0

/-- The upper half without its margins. -/
def high : Place := [(0xA1, 0xFE)]

/-- Two octets of the upper half for row and column. -/
def square (g : Grid) : Sheet := ⟨⟨[high, high], 0⟩, g⟩

/-- The same behind the octet that announces a third one. -/
def tripled (g : Grid) : Sheet := ⟨⟨[[(0x8F, 0x8F)], high, high], 0⟩, g⟩

/-! ### Chinese -/

def longTail : Place := [(0x40, 0x7E), (0x80, 0xFE)]

def gbkSheets : List Sheet :=
  let others : Layout := ⟨[[(0x81, 0xFE)], longTail], 0⟩
  let ideographs := gb2312Core.rest 0x4E00 0x9FA5
  [
    ascii, square gbkDots, square gb2312Core, ⟨others, gbkOthers⟩,
    ⟨⟨[[(0x81, 0xA0)], longTail], 0⟩, ideographs⟩,
    ⟨⟨[[(0xAA, 0xFE)], [(0x40, 0x7E), (0x80, 0xA0)]], 6080⟩, ideographs⟩]

def gb18030Sheets : List Sheet :=
  gbkSheets ++
    [
      ⟨⟨[[(0x81, 0xFE)], longTail], 0⟩, gb18030Others⟩,
      ⟨⟨[[(0x81, 0xFE)], [(0x30, 0x39)], [(0x81, 0xFE)], [(0x30, 0x39)]], 0⟩, gb18030Long⟩]

def five (g : Grid) : Sheet := ⟨⟨[[(0x81, 0xFE)], [(0x40, 0x7E), (0xA1, 0xFE)]], 0⟩, g⟩

def chinese : List Tabled :=
  [
    { name := "gb2312", sheets := [ascii, square gb2312Core, square gb2312Dots] },
    { name := "gbk", sheets := gbkSheets },
    { name := "gb18030", sheets := gb18030Sheets,
      openings := [([[(0x80, 0xFF)], [(0x30, 0x39)]], 4)] },
    { name := "big5",
      sheets := [ascii, five big5Slashes, five big5, five big5Doubles, five big5Kana] },
    { name := "cp950",
      sheets :=
        [ascii, five cp950Signs, five big5, five big5Doubles, five big5Kana, five cp950Boxes] },
    { name := "big5hkscs",
      sheets := [ascii, five hkscs, five big5Slashes, five big5, five big5Doubles] }]

/-! ### Korean -/

/-- The syllables that the Korean set lacks. -/
def otherSyllables : Grid := ksX1001.rest 0xAC00 0xD7A3

/-- Syllables by their letters: a filler, then an initial, a vowel and a final or a filler. -/
def spelledSyllables : Sheet where
  layout :=
    let mark : Place := [(0xA4, 0xA4)]
    let filler : UInt8 × UInt8 := (0xD4, 0xD4)
    {
      places :=
        [
          mark, [filler],
          mark, [(0xA1, 0xA2), (0xA4, 0xA4), (0xA7, 0xA9), (0xB1, 0xB3), (0xB5, 0xBE)],
          mark, [(0xBF, 0xD3)],
          mark, [filler, (0xA1, 0xA7), (0xA9, 0xB2), (0xB4, 0xB8), (0xBA, 0xBE)]] }
  grid := { spans := [(0, 0xAC00, 11172)] }

/-- The number that a vowel has within a code. -/
def vowelNumber (vowel : Nat) : Nat := vowel + 3 + 2 * ((vowel + 1) / 6)

/-- Syllables as codes of three numbers with five binary digits each; the lowest is the final. -/
def packedSyllables : Grid where
  spans :=
    (List.range 19).flatMap fun initial =>
      (List.range 21).flatMap fun vowel =>
        let cell := (initial + 2) * 1024 + vowelNumber vowel * 32
        let first := 0xAC00 + initial * 588 + vowel * 28
        [(cell + 1, first, 17), (cell + 19, first + 17, 11)]

/-- Letters alone, in codes with fillers for the other two. -/
def packedLetters : Grid where
  signs :=
    let initials := "ㄱㄲㄴㄷㄸㄹㅁㅂㅃㅅㅆㅇㅈㅉㅊㅋㅌㅍㅎ".toList
    let finals := "ㄱㄲㄳㄴㄵㄶㄷㄹㄺㄻㄼㄽㄾㄿㅀㅁ"
    (List.range 19).map (fun initial =>
      ((initial + 2) * 1024 + 65, String.ofList ((initials.drop initial).take 1))) ++
    (List.range 21).map (fun vowel =>
      (1024 + vowelNumber vowel * 32 + 1, String.singleton (Char.ofNat (0x314F + vowel)))) ++
    [(1024 + 66, finals), (1024 + 64 + 19, "ㅂㅄㅅㅆㅇㅈㅊㅋㅌㅍㅎ"), (1024 + 65, "\u3000")]

def johabSheets : List Sheet :=
  let packed : Layout := ⟨[[(0x80, 0xFF)], [(0x00, 0xFF)]], 0⟩
  let tail : Place := [(0x31, 0x7E), (0x91, 0xFE)]
  let sheet (leads tail : Place) (first : Nat) : Sheet := ⟨⟨[leads, tail], first⟩, ksX1001⟩
  [
    ascii, ⟨packed, packedSyllables⟩, sheet [(0xD9, 0xD9)] tail 0, ⟨packed, packedLetters⟩,
    sheet [(0xDA, 0xDA)] [(0x31, 0x7E), (0x91, 0xA0)] 188,
    sheet [(0xDA, 0xDA)] [(0xD4, 0xFE)] 333,
    sheet [(0xDB, 0xDE)] tail 376, sheet [(0xE0, 0xF9)] tail 3854]

def korean : List Tabled :=
  [
    { name := "euc_kr", sheets := [ascii, square ksX1001, spelledSyllables],
      openings := [([[(0xA4, 0xA4)], [(0xD4, 0xD4)]], 8)] },
    { name := "cp949",
      sheets :=
        [
          ascii, square ksX1001,
          ⟨⟨[[(0x81, 0xA0)], [(0x41, 0x5A), (0x61, 0x7A), (0x81, 0xFE)]], 0⟩, otherSyllables⟩,
          ⟨⟨[[(0xA1, 0xC6)], [(0x41, 0x5A), (0x61, 0x7A), (0x81, 0xA0)]], 5696⟩,
            otherSyllables⟩] },
    { name := "johab", sheets := johabSheets }]

/-! ### Japanese -/

def yen : Sheet := single 0x5C 1 0xA5
def overline : Sheet := single 0x7E 1 0x203E

/-- Katakana of half the width. -/
def narrowKana : Grid where
  spans := [(0, 0xFF61, 63)]

def shiftTail : Place := [(0x40, 0x7E), (0x80, 0xFC)]
def shiftLowTail : Place := [(0x40, 0x7E), (0x80, 0x9E)]
def shiftHighTail : Place := [(0x9F, 0xFC)]

/-- Rows and columns in two octets of which the second avoids the controls only. -/
def shifted (g : Grid) : Sheet := ⟨⟨[[(0x81, 0x9F), (0xE0, 0xFC)], shiftTail], 0⟩, g⟩

/-- The second plane in the codes behind the first one; rows that the set leaves out have none. -/
def shiftedSecond (g : Grid) : List Sheet :=
  let sheet (lead last : UInt8) (tail : Place) (row : Nat) : Sheet :=
    ⟨⟨[[(lead, last)], tail], 94 * row⟩, g⟩
  [
    sheet 0xF0 0xF0 shiftLowTail 0, sheet 0xF0 0xF0 shiftHighTail 7,
    sheet 0xF1 0xF1 shiftTail 2, sheet 0xF2 0xF2 shiftLowTail 4,
    sheet 0xF2 0xF2 shiftHighTail 11, sheet 0xF3 0xF3 shiftTail 12,
    sheet 0xF4 0xF4 shiftLowTail 14, sheet 0xF4 0xF4 shiftHighTail 77,
    sheet 0xF5 0xFC shiftTail 78]

/-- ASCII with a yen sign and an overline, which the backslash and the tilde make room for. -/
def shiftedExtended (later : List Grid) (second : List Grid) : List Sheet :=
  let moved : Grid := { signs := [(31, "\\")] }
  [
    single 0x00 92 0, yen, single 0x5D 33 0x5D, overline, single 0x7F 1 0x7F,
    ⟨⟨[[(0xA1, 0xDF)]], 0⟩, narrowKana⟩, shifted moved, shifted jisX0213First] ++
    later.map shifted ++ [shifted jisX0208] ++ second.flatMap shiftedSecond

def eucSheets : List Sheet := [ascii, ⟨⟨[[(0x8E, 0x8E)], [(0xA1, 0xDF)]], 0⟩, narrowKana⟩]

/-- The tilde is a wide one where ASCII has one as well. -/
def eucExtendedSheets : List Sheet :=
  eucSheets ++ [square { signs := [(111, "～")] }, square jisX0213First]

def japanese : List Tabled :=
  let threeOctets : List (List Place × Nat) := [([[(0x8F, 0x8F)]], 3)]
  let kana : Sheet := ⟨⟨[[(0xA1, 0xDF)]], 0⟩, narrowKana⟩
  [
    { name := "euc_jp", openings := threeOctets,
      sheets := eucSheets ++ [square jisX0208, tripled jisX0212, yen, overline] },
    { name := "shift_jis", sheets := [ascii, kana, shifted jisX0208, yen, overline] },
    { name := "cp932",
      sheets :=
        [
          ascii, single 0x80 1 0x80, single 0xA0 1 0xF8F0, kana, single 0xFD 3 0xF8F1,
          shifted cp932Signs, shifted jisX0208, shifted cp932Others] },
    { name := "euc_jis_2004", openings := threeOctets,
      sheets :=
        eucExtendedSheets ++
          [
            square jisX0213Later, square jisX0208, tripled jisX0213Second,
            tripled jisX0213SecondNew, tripled jisX0212] },
    { name := "euc_jisx0213", openings := threeOctets, lacking := ['瘦', '繫', '鬜'],
      sheets :=
        eucExtendedSheets ++
          [
            square jisX0208, tripled jisX0213Second, tripled jisX0213SecondOld,
            tripled jisX0212],
      voids := [square jisX0213Later] },
    { name := "shift_jis_2004", lacking := ['＼'],
      sheets := shiftedExtended [jisX0213Later] [jisX0213Second, jisX0213SecondNew] },
    { name := "shift_jisx0213", lacking := ['＼'],
      sheets := shiftedExtended [] [jisX0213Second, jisX0213SecondOld],
      voids := [shifted jisX0213Later] }]

def tabled : List Tabled := chinese ++ korean ++ japanese

/-! ### Charsets with escape sequences -/

def double (mark : Char) (grids : List Grid) : Branch :=
  ⟨⟨mark.toNat.toUInt8, true⟩, .first, grids⟩

def basic : Branch := double 'B' [jisX0208]
def older : Branch := double '@' [jisX0208]
def supplement : Branch := double 'D' [jisX0212]

/-- ASCII but for a yen sign and an overline. -/
def roman : Branch :=
  ⟨⟨74, false⟩, .first,
    [{ signs := [(92, "¥"), (126, "‾")] }, { spans := [(0, 0, 128)] }]⟩

def narrow : Branch := ⟨⟨73, false⟩, .first, [{ spans := [(0x21, 0xFF61, 63)] }]⟩

/-- The upper half of Latin text. -/
def latinHalf : Branch := ⟨⟨65, false⟩, .third, [{ spans := [(0, 0x80, 128)] }]⟩

/-- The upper half of Greek text, without what later editions put in. -/
def greekHalf : Branch :=
  ⟨⟨70, false⟩, .third,
    [
      { signs := [(0x21, "‘’£"), (0x2F, "―°±²³΄΅Ά·ΈΉΊ»Ό½")],
        spans :=
          [
            (0x00, 0x80, 33), (0x26, 0xA6, 4), (0x2B, 0xAB, 3), (0x3E, 0x38E, 20),
            (0x53, 0x3A3, 44), (0x80, 0x00, 128)] }]⟩

def switched : List Switched :=
  [
    { name := "iso2022_jp", branches := [basic, roman, older] },
    { name := "iso2022_jp_1", branches := [basic, supplement, roman, older] },
    { name := "iso2022_jp_2", singles := true,
      branches :=
        [
          basic, supplement, double 'C' [ksX1001], double 'A' [gb2312Core, gb2312Dots], roman,
          older, latinHalf, greekHalf] },
    { name := "iso2022_jp_3", lacking := ['鬜'],
      branches :=
        [basic, double 'O' [jisX0213First, jisX0208],
          double 'P' [jisX0213Second, jisX0213SecondNew], double 'P' [jisX0213SecondOld]] },
    { name := "iso2022_jp_2004",
      branches :=
        [basic, double 'Q' [jisX0213First, jisX0213Later, jisX0208],
          double 'P' [jisX0213Second, jisX0213SecondNew]] },
    { name := "iso2022_jp_ext", branches := [basic, supplement, roman, narrow, older] },
    { name := "iso2022_kr", shifts := true, renames := false,
      branches := [⟨⟨67, true⟩, .second, [ksX1001]⟩] }]

end Mailroom.Charset.EastAsian
