import PlatformClient.Charset.Basic
import PlatformClient.Charset.Big5
import PlatformClient.Charset.Chinese
import PlatformClient.Charset.Escaped
import PlatformClient.Charset.Iso2022
import PlatformClient.Charset.Korean
import PlatformClient.Charset.Page.Macintosh
import PlatformClient.Charset.Page.Mainframe
import PlatformClient.Charset.Page.Regional
import PlatformClient.Charset.Page.Terminal
import PlatformClient.Charset.Page.Windows

/-!
# Names of character sets

Every set has a name and may have further ones. Names are compared without regard to case, and runs
of punctuation in them count as one underscore. A dot counts as an underscore only in further names.

## Main definitions

* `Charset.normalName`: the spelling under which names are compared
* `Charset.Entry`: a set with its names
* `Charset.entries`: the known sets
* `Charset.named?`: the set of a name
-/

namespace PlatformClient.Charset

/-- The spelling under which names are compared: small letters, digits and dots, and one underscore
for each run of other characters between them. -/
def normalName (name : List Char) : List Char :=
  let isKept (c : Char) : Bool := c.isAlphanum || c == '.'
  let step (kept : List Char × Bool) (c : Char) : List Char × Bool :=
    if isKept c then
      (c.toLower :: (if kept.2 && !kept.1.isEmpty then '_' :: kept.1 else kept.1), false)
    else (kept.1, true)
  (name.foldl step ([], false)).1.reverse

/-- A set with its name and its further names. -/
structure Entry where
  charset : Charset
  name : String
  others : List String

/-- Whether a set has a name in its compared spelling. -/
def Entry.isNamed (entry : Entry) (name : String) : Bool :=
  entry.name == name || entry.others.contains name ||
    entry.others.contains (String.ofList (name.toList.map fun c => if c == '.' then '_' else c))

/-- The sets of all code points. -/
def unicodeSets : List Entry :=
  [
    ⟨.utf8, "utf_8", ["u8", "utf", "utf8", "utf8_ucs2", "utf8_ucs4", "cp65001"]⟩,
    ⟨.utf8Marked, "utf_8_sig", []⟩,
    ⟨.ofPage .ascii, "ascii", ["646", "ansi_x3.4_1968", "ansi_x3_4_1968", "ansi_x3.4_1986",
      "cp367", "csascii", "ibm367", "iso646_us", "iso_646.irv_1991", "iso_ir_6", "us",
      "us_ascii"]⟩,
    ⟨.ofPage .direct, "latin_1", ["8859", "cp819", "csisolatin1", "ibm819", "iso8859",
      "iso8859_1", "iso_8859_1", "iso_8859_1_1987", "iso_ir_100", "l1", "latin", "latin1"]⟩,
    ⟨.ofScan Units.marked16, "utf_16", ["u16", "utf16"]⟩,
    ⟨.ofScan (Units.utf16 .little), "utf_16_le", ["unicodelittleunmarked", "utf_16le"]⟩,
    ⟨.ofScan (Units.utf16 .big), "utf_16_be", ["unicodebigunmarked", "utf_16be"]⟩,
    ⟨.ofScan Units.marked32, "utf_32", ["u32", "utf32"]⟩,
    ⟨.ofScan (Units.utf32 .little), "utf_32_le", ["utf_32le"]⟩,
    ⟨.ofScan (Units.utf32 .big), "utf_32_be", ["utf_32be"]⟩,
    ⟨.ofScan Utf7.scan, "utf_7", ["u7", "utf7", "unicode_1_1_utf_7"]⟩,
    ⟨.ofScan Escaped.scan, "unicode_escape", []⟩,
    ⟨.ofScan Escaped.scanRaw, "raw_unicode_escape", []⟩,
    ⟨.ofPage .direct, "charmap", []⟩,
    ⟨.punycode, "punycode", []⟩,
    ⟨.refusing .unforgiving, "idna", []⟩,
    ⟨.refusing .undefined, "undefined", []⟩
  ]

/-- The sets of East Asian texts. -/
def eastAsianSets : List Entry :=
  [
    ⟨.ofScan Chinese.gb2312, "gb2312", ["chinese", "csiso58gb231280", "euc_cn", "euccn",
      "eucgb2312_cn", "gb2312_1980", "gb2312_80", "iso_ir_58", "x_mac_simp_chinese"]⟩,
    ⟨.ofScan Chinese.gbk, "gbk", ["936", "cp936", "ms936"]⟩,
    ⟨.ofScan Chinese.gb18030, "gb18030", ["gb18030_2000"]⟩,
    ⟨.ofScan Chinese.hz, "hz", ["hzgb", "hz_gb", "hz_gb_2312"]⟩,
    ⟨.ofScan Big5.plain, "big5", ["big5_tw", "csbig5", "x_mac_trad_chinese"]⟩,
    ⟨.ofScan Big5.windows, "cp950", ["950", "ms950"]⟩,
    ⟨.ofScan Big5.hongKong, "big5hkscs", ["big5_hkscs", "hkscs"]⟩,
    ⟨.ofScan Korean.packed, "euc_kr", ["euckr", "korean", "ksc5601", "ks_c_5601",
      "ks_c_5601_1987", "ksx1001", "ks_x_1001", "x_mac_korean"]⟩,
    ⟨.ofScan Korean.windows, "cp949", ["949", "ms949", "uhc"]⟩,
    ⟨.ofScan Korean.combining, "johab", ["cp1361", "ms1361"]⟩,
    ⟨.ofScan (Iso2022.scan .korean), "iso2022_kr", ["csiso2022kr", "iso2022kr", "iso_2022_kr"]⟩,
    ⟨.ofScan Japanese.packed, "euc_jp", ["eucjp", "ujis", "u_jis"]⟩,
    ⟨.ofScan (Japanese.packed0213 .of2000), "euc_jisx0213", ["eucjisx0213"]⟩,
    ⟨.ofScan (Japanese.packed0213 .of2004), "euc_jis_2004", ["jisx0213", "eucjis2004",
      "euc_jis2004"]⟩,
    ⟨.ofScan Japanese.shifted, "shift_jis", ["csshiftjis", "shiftjis", "sjis", "s_jis",
      "x_mac_japanese"]⟩,
    ⟨.ofScan (Japanese.shifted0213 .of2000), "shift_jisx0213", ["shiftjisx0213", "sjisx0213",
      "s_jisx0213"]⟩,
    ⟨.ofScan (Japanese.shifted0213 .of2004), "shift_jis_2004", ["shiftjis2004", "sjis_2004",
      "s_jis_2004"]⟩,
    ⟨.ofScan Japanese.windows, "cp932", ["932", "ms932", "mskanji", "ms_kanji"]⟩,
    ⟨.ofScan (Iso2022.scan .japanese), "iso2022_jp", ["csiso2022jp", "iso2022jp",
      "iso_2022_jp"]⟩,
    ⟨.ofScan (Iso2022.scan .japaneseSupplemented), "iso2022_jp_1", ["iso2022jp_1",
      "iso_2022_jp_1"]⟩,
    ⟨.refusingIf (Iso2022.isFatal .japaneseMultilingual) .noRule
        (Iso2022.scan .japaneseMultilingual), "iso2022_jp_2", ["iso2022jp_2", "iso_2022_jp_2"]⟩,
    ⟨.ofScan (Iso2022.scan (.japanese0213 .of2000)), "iso2022_jp_3", ["iso2022jp_3",
      "iso_2022_jp_3"]⟩,
    ⟨.ofScan (Iso2022.scan (.japanese0213 .of2004)), "iso2022_jp_2004", ["iso_2022_jp_2004",
      "iso2022jp_2004"]⟩,
    ⟨.ofScan (Iso2022.scan .japaneseExtended), "iso2022_jp_ext", ["iso2022jp_ext",
      "iso_2022_jp_ext"]⟩
  ]

/-- The pages of ISO 8859. -/
def isoPages : List Entry :=
  [
    ⟨.ofPage .part2, "iso8859_2", ["csisolatin2", "iso_8859_2", "iso_8859_2_1987",
      "iso_ir_101", "l2", "latin2"]⟩,
    ⟨.ofPage .part3, "iso8859_3", ["csisolatin3", "iso_8859_3", "iso_8859_3_1988",
      "iso_ir_109", "l3", "latin3"]⟩,
    ⟨.ofPage .part4, "iso8859_4", ["csisolatin4", "iso_8859_4", "iso_8859_4_1988",
      "iso_ir_110", "l4", "latin4"]⟩,
    ⟨.ofPage .part5, "iso8859_5", ["csisolatincyrillic", "cyrillic", "iso_8859_5",
      "iso_8859_5_1988", "iso_ir_144"]⟩,
    ⟨.ofPage .part6, "iso8859_6", ["arabic", "asmo_708", "csisolatinarabic", "ecma_114",
      "iso_8859_6", "iso_8859_6_1987", "iso_ir_127"]⟩,
    ⟨.ofPage .part7, "iso8859_7", ["csisolatingreek", "ecma_118", "elot_928", "greek",
      "greek8", "iso_8859_7", "iso_8859_7_1987", "iso_ir_126"]⟩,
    ⟨.ofPage .part8, "iso8859_8", ["csisolatinhebrew", "hebrew", "iso_8859_8",
      "iso_8859_8_1988", "iso_ir_138"]⟩,
    ⟨.ofPage .part9, "iso8859_9", ["csisolatin5", "iso_8859_9", "iso_8859_9_1989",
      "iso_ir_148", "l5", "latin5"]⟩,
    ⟨.ofPage .part10, "iso8859_10", ["csisolatin6", "iso_8859_10", "iso_8859_10_1992",
      "iso_ir_157", "l6", "latin6"]⟩,
    ⟨.ofPage .part11, "iso8859_11", ["thai", "iso_8859_11", "iso_8859_11_2001"]⟩,
    ⟨.ofPage .part13, "iso8859_13", ["iso_8859_13", "l7", "latin7"]⟩,
    ⟨.ofPage .part14, "iso8859_14", ["iso_8859_14", "iso_8859_14_1998", "iso_celtic",
      "iso_ir_199", "l8", "latin8"]⟩,
    ⟨.ofPage .part15, "iso8859_15", ["iso_8859_15", "l9", "latin9"]⟩,
    ⟨.ofPage .part16, "iso8859_16", ["iso_8859_16", "iso_8859_16_2001", "iso_ir_226", "l10",
      "latin10"]⟩
  ]

/-- The pages of Windows. -/
def windowsPages : List Entry :=
  [
    ⟨.ofPage .cp874, "cp874", []⟩,
    ⟨.ofPage .cp1250, "cp1250", ["1250", "windows_1250"]⟩,
    ⟨.ofPage .cp1251, "cp1251", ["1251", "windows_1251"]⟩,
    ⟨.ofPage .cp1252, "cp1252", ["1252", "windows_1252"]⟩,
    ⟨.ofPage .cp1253, "cp1253", ["1253", "windows_1253"]⟩,
    ⟨.ofPage .cp1254, "cp1254", ["1254", "windows_1254"]⟩,
    ⟨.ofPage .cp1255, "cp1255", ["1255", "windows_1255"]⟩,
    ⟨.ofPage .cp1256, "cp1256", ["1256", "windows_1256"]⟩,
    ⟨.ofPage .cp1257, "cp1257", ["1257", "windows_1257"]⟩,
    ⟨.ofPage .cp1258, "cp1258", ["1258", "windows_1258"]⟩
  ]

/-- The pages of terminals. -/
def terminalPages : List Entry :=
  [
    ⟨.ofPage .cp437, "cp437", ["437", "cspc8codepage437", "ibm437"]⟩,
    ⟨.ofPage .cp720, "cp720", []⟩,
    ⟨.ofPage .cp737, "cp737", []⟩,
    ⟨.ofPage .cp775, "cp775", ["775", "cspc775baltic", "ibm775"]⟩,
    ⟨.ofPage .cp850, "cp850", ["850", "cspc850multilingual", "ibm850"]⟩,
    ⟨.ofPage .cp852, "cp852", ["852", "cspcp852", "ibm852"]⟩,
    ⟨.ofPage .cp855, "cp855", ["855", "csibm855", "ibm855"]⟩,
    ⟨.ofPage .cp856, "cp856", []⟩,
    ⟨.ofPage .cp857, "cp857", ["857", "csibm857", "ibm857"]⟩,
    ⟨.ofPage .cp858, "cp858", ["858", "csibm858", "ibm858"]⟩,
    ⟨.ofPage .cp860, "cp860", ["860", "csibm860", "ibm860"]⟩,
    ⟨.ofPage .cp861, "cp861", ["861", "cp_is", "csibm861", "ibm861"]⟩,
    ⟨.ofPage .cp862, "cp862", ["862", "cspc862latinhebrew", "ibm862"]⟩,
    ⟨.ofPage .cp863, "cp863", ["863", "csibm863", "ibm863"]⟩,
    ⟨.ofPage .cp864, "cp864", ["864", "csibm864", "ibm864"]⟩,
    ⟨.ofPage .cp865, "cp865", ["865", "csibm865", "ibm865"]⟩,
    ⟨.ofPage .cp866, "cp866", ["866", "csibm866", "ibm866"]⟩,
    ⟨.ofPage .cp869, "cp869", ["869", "cp_gr", "csibm869", "ibm869"]⟩,
    ⟨.ofPage .cp1125, "cp1125", ["1125", "ibm1125", "cp866u", "ruscii"]⟩
  ]

/-- The pages of mainframes. -/
def mainframePages : List Entry :=
  [
    ⟨.ofPage .cp37, "cp037", ["037", "csibm037", "ebcdic_cp_ca", "ebcdic_cp_nl",
      "ebcdic_cp_us", "ebcdic_cp_wt", "ibm037", "ibm039"]⟩,
    ⟨.ofPage .cp273, "cp273", ["273", "ibm273", "csibm273"]⟩,
    ⟨.ofPage .cp424, "cp424", ["424", "csibm424", "ebcdic_cp_he", "ibm424"]⟩,
    ⟨.ofPage .cp500, "cp500", ["500", "csibm500", "ebcdic_cp_be", "ebcdic_cp_ch", "ibm500"]⟩,
    ⟨.ofPage .cp875, "cp875", []⟩,
    ⟨.ofPage .cp1026, "cp1026", ["1026", "csibm1026", "ibm1026"]⟩,
    ⟨.ofPage .cp1140, "cp1140", ["1140", "ibm1140"]⟩
  ]

/-- The pages of the Macintosh. -/
def macintoshPages : List Entry :=
  [
    ⟨.ofPage .macArabic, "mac_arabic", []⟩,
    ⟨.ofPage .macCroatian, "mac_croatian", []⟩,
    ⟨.ofPage .macCyrillic, "mac_cyrillic", ["maccyrillic"]⟩,
    ⟨.ofPage .macFarsi, "mac_farsi", []⟩,
    ⟨.ofPage .macGreek, "mac_greek", ["macgreek"]⟩,
    ⟨.ofPage .macIceland, "mac_iceland", ["maciceland"]⟩,
    ⟨.ofPage .macLatin2, "mac_latin2", ["maccentraleurope", "mac_centeuro", "maclatin2"]⟩,
    ⟨.ofPage .macRoman, "mac_roman", ["macintosh", "macroman"]⟩,
    ⟨.ofPage .macRomanian, "mac_romanian", []⟩,
    ⟨.ofPage .macTurkish, "mac_turkish", ["macturkish"]⟩
  ]

/-- The pages of single regions and makers. -/
def regionalPages : List Entry :=
  [
    ⟨.ofPage .koi8R, "koi8_r", ["cskoi8r"]⟩,
    ⟨.ofPage .koi8T, "koi8_t", []⟩,
    ⟨.ofPage .koi8U, "koi8_u", []⟩,
    ⟨.ofPage .kazakh, "kz1048", ["kz_1048", "rk1048", "strk1048_2002"]⟩,
    ⟨.ofPage .asianCyrillic, "ptcp154", ["csptcp154", "pt154", "cp154", "cyrillic_asian"]⟩,
    ⟨.ofPage .thai, "tis_620", ["tis620", "tis_620_0", "tis_620_2529_0", "tis_620_2529_1",
      "iso_ir_166"]⟩,
    ⟨.ofPage .urdu, "cp1006", []⟩,
    ⟨.ofPage .printerRoman, "hp_roman8", ["roman8", "r8", "cp1051", "ibm1051"]⟩,
    ⟨.ofPage .handheld, "palmos", []⟩
  ]

/-- The known sets. -/
def entries : List Entry :=
  unicodeSets ++ eastAsianSets ++ isoPages ++ windowsPages ++ terminalPages ++ mainframePages ++
    macintoshPages ++ regionalPages

/-- The set of a name. -/
def named? (name : String) : Option Charset :=
  let normal := String.ofList (normalName name.toList)
  (entries.find? (·.isNamed normal)).map (·.charset)

end PlatformClient.Charset
