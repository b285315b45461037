import PlatformClient.Charset.Page

/-!
# Pages of the Macintosh

The pages that extend ASCII on the Macintosh, by language.

## Main definitions

* `Page.macArabic`, `Page.macCroatian`, `Page.macCyrillic`, `Page.macFarsi`, `Page.macGreek`,
  `Page.macIceland`, `Page.macLatin2`, `Page.macRoman`, `Page.macRomanian`, `Page.macTurkish`: the
  pages
-/

namespace PlatformClient.Charset.Page

/-- Arabic on the Macintosh. -/
def macArabic : Page :=
  ⟨0x80, [
    "Ä\u00a0ÇÉÑÖÜáàâäں«çéèêëí…îïñó»ôö÷úùûü !\x22#$٪&'()*+،-./٠١٢٣٤٥٦٧٨٩:؛<=>؟❊ءآأؤإئابةتثجحخد",
    "ذرزسشصضطظعغ[\x5c]^_\u0640فقكلمنهوىي\u064b\u064c\u064d\u064e\u064f\u0650\u0651\u0652پٹچەڤ",
    "گڈڑ\x7b|\x7dژے"]⟩

/-- Croatian on the Macintosh. -/
def macCroatian : Page :=
  ⟨0x80, [
    "ÄÅÇÉÑÖÜáàâäãåçéèêëíìîïñóòôöõúùûü†°¢£§•¶ß®Š™\u00b4\u00a8≠ŽØ∞±≤≥∆µ∂∑∏š∫ªºΩžø¿¡¬√ƒ≈Ć«Č…",
    "\u00a0ÀÃÕŒœĐ—“”‘’÷◊\uf8ff©⁄€‹›Æ»–·‚„‰ÂćÁčÈÍÎÏÌÓÔđÒÚÛÙı\u02c6\u02dc\u00afπË\u02da\u00b8Êæ",
    "\u02c7"]⟩

/-- Cyrillic on the Macintosh. -/
def macCyrillic : Page :=
  ⟨0x80, [
    "АБВГДЕЖЗИЙКЛМНОПРСТУФХЦЧШЩЪЫЬЭЮЯ†°Ґ£§•¶І®©™Ђђ≠Ѓѓ∞±≤≥іµґЈЄєЇїЉљЊњјЅ¬√ƒ≈∆«»…\u00a0ЋћЌќѕ–—“",
    "”‘’÷„ЎўЏџ№Ёёяабвгдежзийклмнопрстуфхцчшщъыьэю€"]⟩

/-- Persian on the Macintosh. -/
def macFarsi : Page :=
  ⟨0x80, [
    "Ä\u00a0ÇÉÑÖÜáàâäں«çéèêëí…îïñó»ôö÷úùûü !\x22#$٪&'()*+،-./۰۱۲۳۴۵۶۷۸۹:؛<=>؟❊ءآأؤإئابةتثجحخد",
    "ذرزسشصضطظعغ[\x5c]^_\u0640فقكلمنهوىي\u064b\u064c\u064d\u064e\u064f\u0650\u0651\u0652پٹچەڤ",
    "گڈڑ\x7b|\x7dژے"]⟩

/-- Greek on the Macintosh. -/
def macGreek : Page :=
  ⟨0x80, [
    "Ä¹²É³ÖÜ\u0385àâä\u0384\u00a8çéèêë£™îï•½‰ôö¦€ùûü†ΓΔΘΛΞΠß®©ΣΪ§≠°·Α±≤≥¥ΒΕΖΗΙΚΜΦΫΨΩάΝ¬ΟΡ≈Τ«»",
    "…\u00a0ΥΧΆΈœ–―“”‘’÷ΉΊΌΎέήίόΏύαβψδεφγηιξκλμνοπώρστθωςχυζϊϋΐΰ\u00ad"]⟩

/-- Icelandic on the Macintosh. -/
def macIceland : Page :=
  ⟨0x80, [
    "ÄÅÇÉÑÖÜáàâäãåçéèêëíìîïñóòôöõúùûüÝ°¢£§•¶ß®©™\u00b4\u00a8≠ÆØ∞±≤≥¥µ∂∑∏π∫ªºΩæø¿¡¬√ƒ≈∆«»…",
    "\u00a0ÀÃÕŒœ–—“”‘’÷◊ÿŸ⁄€ÐðÞþý·‚„‰ÂÊÁËÈÍÎÏÌÓÔ\uf8ffÒÚÛÙı\u02c6\u02dc\u00af\u02d8\u02d9",
    "\u02da\u00b8\u02dd\u02db\u02c7"]⟩

/-- Central European languages on the Macintosh. -/
def macLatin2 : Page :=
  ⟨0x80, [
    "ÄĀāÉĄÖÜáąČäčĆćéŹźĎíďĒēĖóėôöõúĚěü†°Ę£§•¶ß®©™ę\u00a8≠ģĮįĪ≤≥īĶ∂∑łĻļĽľĹĺŅņŃ¬√ńŇ∆«»…\u00a0ňŐÕ",
    "őŌ–—“”‘’÷◊ōŔŕŘ‹›řŖŗŠ‚„šŚśÁŤťÍŽžŪÓÔūŮÚůŰűŲųÝýķŻŁżĢ\u02c7"]⟩

/-- Western European languages on the Macintosh. -/
def macRoman : Page :=
  ⟨0x80, [
    "ÄÅÇÉÑÖÜáàâäãåçéèêëíìîïñóòôöõúùûü†°¢£§•¶ß®©™\u00b4\u00a8≠ÆØ∞±≤≥¥µ∂∑∏π∫ªºΩæø¿¡¬√ƒ≈∆«»…",
    "\u00a0ÀÃÕŒœ–—“”‘’÷◊ÿŸ⁄€‹›ﬁﬂ‡·‚„‰ÂÊÁËÈÍÎÏÌÓÔ\uf8ffÒÚÛÙı\u02c6\u02dc\u00af\u02d8\u02d9",
    "\u02da\u00b8\u02dd\u02db\u02c7"]⟩

/-- Romanian on the Macintosh. -/
def macRomanian : Page :=
  ⟨0x80, [
    "ÄÅÇÉÑÖÜáàâäãåçéèêëíìîïñóòôöõúùûü†°¢£§•¶ß®©™\u00b4\u00a8≠ĂȘ∞±≤≥¥µ∂∑∏π∫ªºΩăș¿¡¬√ƒ≈∆«»…",
    "\u00a0ÀÃÕŒœ–—“”‘’÷◊ÿŸ⁄€‹›Țț‡·‚„‰ÂÊÁËÈÍÎÏÌÓÔ\uf8ffÒÚÛÙı\u02c6\u02dc\u00af\u02d8\u02d9",
    "\u02da\u00b8\u02dd\u02db\u02c7"]⟩

/-- Turkish on the Macintosh. -/
def macTurkish : Page :=
  ⟨0x80, [
    "ÄÅÇÉÑÖÜáàâäãåçéèêëíìîïñóòôöõúùûü†°¢£§•¶ß®©™\u00b4\u00a8≠ÆØ∞±≤≥¥µ∂∑∏π∫ªºΩæø¿¡¬√ƒ≈∆«»…",
    "\u00a0ÀÃÕŒœ–—“”‘’÷◊ÿŸĞğİıŞş‡·‚„‰ÂÊÁËÈÍÎÏÌÓÔ\uf8ffÒÚÛÙ\uf8a0\u02c6\u02dc\u00af\u02d8",
    "\u02d9\u02da\u00b8\u02dd\u02db\u02c7"]⟩

end PlatformClient.Charset.Page
