import PlatformClient.Charset.Page

/-!
# Pages of ISO 8859

The parts two to sixteen of ISO 8859, of which there is no twelfth. They differ from the first
part, whose characters are the code points themselves, only from 0xA1 on.

## Main definitions

* `Page.part2`, `Page.part3`, `Page.part4`, `Page.part5`, `Page.part6`, `Page.part7`, `Page.part8`,
  `Page.part9`, `Page.part10`, `Page.part11`, `Page.part13`, `Page.part14`, `Page.part15`,
  `Page.part16`: the pages
-/

namespace PlatformClient.Charset.Page

/-- Central European languages. -/
def part2 : Page :=
  ⟨0xA1, [
    "Ą\u02d8Ł¤ĽŚ§\u00a8ŠŞŤŹ\u00adŽŻ°ą\u02dbł\u00b4ľś\u02c7\u00b8šşťź\u02ddžżŔÁÂĂÄĹĆÇČÉĘËĚÍÎĎĐ",
    "ŃŇÓÔŐÖ×ŘŮÚŰÜÝŢßŕáâăäĺćçčéęëěíîďđńňóôőö÷řůúűüýţ\u02d9"]⟩

/-- South European languages. -/
def part3 : Page :=
  ⟨0xA1, [
    "Ħ\u02d8£¤�Ĥ§\u00a8İŞĞĴ\u00ad�Ż°ħ²³\u00b4µĥ·\u00b8ışğĵ½�żÀÁÂ�ÄĊĈÇÈÉÊËÌÍÎÏ�ÑÒÓÔĠÖ×ĜÙÚÛÜŬŜß",
    "àáâ�äċĉçèéêëìíîï�ñòóôġö÷ĝùúûüŭŝ\u02d9"]⟩

/-- North European languages. -/
def part4 : Page :=
  ⟨0xA1, [
    "ĄĸŖ¤ĨĻ§\u00a8ŠĒĢŦ\u00adŽ\u00af°ą\u02dbŗ\u00b4ĩļ\u02c7\u00b8šēģŧŊžŋĀÁÂÃÄÅÆĮČÉĘËĖÍÎĪĐŅŌĶÔÕ",
    "Ö×ØŲÚÛÜŨŪßāáâãäåæįčéęëėíîīđņōķôõö÷øųúûüũū\u02d9"]⟩

/-- Cyrillic. -/
def part5 : Page :=
  ⟨0xA1, [
    "ЁЂЃЄЅІЇЈЉЊЋЌ\u00adЎЏАБВГДЕЖЗИЙКЛМНОПРСТУФХЦЧШЩЪЫЬЭЮЯабвгдежзийклмнопрстуфхцчшщъыьэюя№ёђѓ",
    "єѕіїјљњћќ§ўџ"]⟩

/-- Arabic. -/
def part6 : Page :=
  ⟨0xA1, [
    "���¤�������،\u00ad�������������؛���؟�ءآأؤإئابةتثجحخدذرزسشصضطظعغ�����\u0640فقكلمنهوىي",
    "\u064b\u064c\u064d\u064e\u064f\u0650\u0651\u0652�������������"]⟩

/-- Greek. -/
def part7 : Page :=
  ⟨0xA1, [
    "‘’£€₯¦§\u00a8©\u037a«¬\u00ad�―°±²³\u0384\u0385Ά·ΈΉΊ»Ό½ΎΏΐΑΒΓΔΕΖΗΘΙΚΛΜΝΞΟΠΡ�ΣΤΥΦΧΨΩΪΫάέήί",
    "ΰαβγδεζηθικλμνξοπρςστυφχψωϊϋόύώ�"]⟩

/-- Hebrew. -/
def part8 : Page :=
  ⟨0xA1, [
    "�¢£¤¥¦§\u00a8©×«¬\u00ad®\u00af°±²³\u00b4µ¶·\u00b8¹÷»¼½¾��������������������������������‗",
    "אבגדהוזחטיךכלםמןנסעףפץצקרשת��\u200e\u200f�"]⟩

/-- Turkish. -/
def part9 : Page :=
  ⟨0xD0, [
    "ĞÑÒÓÔÕÖ×ØÙÚÛÜİŞßàáâãäåæçèéêëìíîïğñòóôõö÷øùúûüışÿ"]⟩

/-- Nordic languages. -/
def part10 : Page :=
  ⟨0xA1, [
    "ĄĒĢĪĨĶ§ĻĐŠŦŽ\u00adŪŊ°ąēģīĩķ·ļđšŧž―ūŋĀÁÂÃÄÅÆĮČÉĘËĖÍÎÏÐŅŌÓÔÕÖŨØŲÚÛÜÝÞßāáâãäåæįčéęëėíîïðņōó",
    "ôõöũøųúûüýþĸ"]⟩

/-- Thai. -/
def part11 : Page :=
  ⟨0xA1, [
    "กขฃคฅฆงจฉชซฌญฎฏฐฑฒณดตถทธนบปผฝพฟภมยรฤลฦวศษสหฬอฮฯะ\u0e31าำ\u0e34\u0e35\u0e36\u0e37\u0e38",
    "\u0e39\u0e3a����฿เแโใไๅ\u0e46\u0e47\u0e48\u0e49\u0e4a\u0e4b\u0e4c\u0e4d\u0e4e๏๐๑๒๓๔๕๖๗๘๙",
    "๚๛����"]⟩

/-- Baltic languages. -/
def part13 : Page :=
  ⟨0xA1, [
    "”¢£¤„¦§Ø©Ŗ«¬\u00ad®Æ°±²³“µ¶·ø¹ŗ»¼½¾æĄĮĀĆÄÅĘĒČÉŹĖĢĶĪĻŠŃŅÓŌÕÖ×ŲŁŚŪÜŻŽßąįāćäåęēčéźėģķīļšńņó",
    "ōõö÷ųłśūüżž’"]⟩

/-- Celtic languages. -/
def part14 : Page :=
  ⟨0xA1, [
    "Ḃḃ£ĊċḊ§Ẁ©ẂḋỲ\u00ad®ŸḞḟĠġṀṁ¶ṖẁṗẃṠỳẄẅṡÀÁÂÃÄÅÆÇÈÉÊËÌÍÎÏŴÑÒÓÔÕÖṪØÙÚÛÜÝŶßàáâãäåæçèéêëìíîïŵñòó",
    "ôõöṫøùúûüýŷÿ"]⟩

/-- Western European languages with the euro sign. -/
def part15 : Page :=
  ⟨0xA4, [
    "€¥Š§š©ª«¬\u00ad®\u00af°±²³Žµ¶·ž¹º»ŒœŸ¿ÀÁÂÃÄÅÆÇÈÉÊËÌÍÎÏÐÑÒÓÔÕÖ×ØÙÚÛÜÝÞßàáâãäåæçèéêëìíîïðñ",
    "òóôõö÷øùúûüýþÿ"]⟩

/-- South-Eastern European languages. -/
def part16 : Page :=
  ⟨0xA1, [
    "ĄąŁ€„Š§š©Ș«Ź\u00adźŻ°±ČłŽ”¶·žčș»ŒœŸżÀÁÂĂÄĆÆÇÈÉÊËÌÍÎÏĐŃÒÓÔŐÖŚŰÙÚÛÜĘȚßàáâăäćæçèéêëìíîïđńòó",
    "ôőöśűùúûüęțÿ"]⟩

end PlatformClient.Charset.Page
