/-
# Encodings by name

The encodings that the declaration of a document may name, beside those every reader knows.  Only a
code page will do; other names lead to encodings that are no use here, or to nothing.
-/
import GLBindings.Xml.CodePage

namespace GLBindings.Xml

set_option autoImplicit false

inductive EncodingError where
  /-- Nothing goes by the name. -/
  | unknown
  /-- Some characters take more than one byte. -/
  | wide
  /-- The encoding is not for running text and refuses all of it. -/
  | refused
  /-- The encoding fails on the bytes beyond ASCII. -/
  | undecodable
  deriving DecidableEq

inductive DocumentError where
  | illFormed
  | encoding (error : EncodingError)
  deriving DecidableEq

/-- What is there, or else the document is not well-formed. -/
def orIllFormed {α : Type} : Option α → Except DocumentError α
  | some a => .ok a
  | none => .error .illFormed

/-! ## Encodings that are no code pages -/

/-- Encodings in which some characters take more than one byte. -/
def wideEncodings : EncodingNames where
  names := ["big5", "big5hkscs", "cp932", "cp949", "cp950", "euc_jis_2004", "euc_jisx0213",
    "euc_jp", "euc_kr", "gb18030", "gb2312", "gbk", "iso2022_kr", "johab", "shift_jis",
    "shift_jis_2004", "shift_jisx0213", "utf_16", "utf_16_be", "utf_16_le", "utf_32",
    "utf_32_be", "utf_32_le", "utf_7"]
  aliases := ["932", "936", "949", "950", "big5_hkscs", "big5_tw", "chinese", "cp1361", "cp936",
    "csbig5", "csiso2022kr", "csiso58gb231280", "csshiftjis", "euc_cn", "euc_jis2004", "euccn",
    "eucgb2312_cn", "eucjis2004", "eucjisx0213", "eucjp", "euckr", "gb18030_2000",
    "gb2312_1980", "gb2312_80", "hkscs", "iso2022kr", "iso_2022_kr", "iso_ir_58", "jisx0213",
    "korean", "ks_c_5601", "ks_c_5601_1987", "ks_x_1001", "ksc5601", "ksx1001", "ms1361",
    "ms932", "ms936", "ms949", "ms950", "ms_kanji", "mskanji", "s_jis", "s_jis_2004",
    "s_jisx0213", "shiftjis", "shiftjis2004", "shiftjisx0213", "sjis", "sjis_2004", "sjisx0213",
    "u16", "u32", "u7", "u_jis", "uhc", "ujis", "unicode_1_1_utf_7", "unicodebigunmarked",
    "unicodelittleunmarked", "utf16", "utf32", "utf7", "utf_16be", "utf_16le", "utf_32be",
    "utf_32le", "x_mac_japanese", "x_mac_korean", "x_mac_simp_chinese", "x_mac_trad_chinese"]

/-- Encodings of one byte a character in which ASCII characters have other places. -/
def foreignEncodings : EncodingNames where
  names := ["cp037", "cp1026", "cp1140", "cp273", "cp424", "cp500", "cp864", "cp875",
    "mac_arabic", "mac_farsi"]
  aliases := ["037", "1026", "1140", "273", "424", "500", "864", "csibm037", "csibm1026",
    "csibm273", "csibm424", "csibm500", "csibm864", "ebcdic_cp_be", "ebcdic_cp_ca",
    "ebcdic_cp_ch", "ebcdic_cp_he", "ebcdic_cp_nl", "ebcdic_cp_us", "ebcdic_cp_wt", "ibm037",
    "ibm039", "ibm1026", "ibm1140", "ibm273", "ibm424", "ibm500", "ibm864"]

/-- Encodings that refuse running text. -/
def refusingEncodings : EncodingNames where
  names := ["idna", "undefined"]

/-- Encodings that fail on the bytes beyond ASCII. -/
def labelEncodings : EncodingNames where
  names := ["punycode"]

/-! ## Looking up -/

/-- The code page that goes by a name.  In a document ASCII characters have to be in their places. -/
def CodePage.named (name : String) : Except DocumentError CodePage :=
  match CodePage.all.find? fun page => page.goesBy name with
  | some page => .ok page
  | none =>
      if foreignEncodings.goesBy name then .error .illFormed
      else if wideEncodings.goesBy name then .error (.encoding .wide)
      else if refusingEncodings.goesBy name then .error (.encoding .refused)
      else if labelEncodings.goesBy name then .error (.encoding .undecodable)
      else .error (.encoding .unknown)

end GLBindings.Xml
