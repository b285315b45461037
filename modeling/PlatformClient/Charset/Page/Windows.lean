import PlatformClient.Charset.Page

/-!
# Pages of Windows

The pages that extend ASCII on Windows, by number.

## Main definitions

* `Page.cp874`, `Page.cp1250`, `Page.cp1251`, `Page.cp1252`, `Page.cp1253`, `Page.cp1254`,
  `Page.cp1255`, `Page.cp1256`, `Page.cp1257`, `Page.cp1258`: the pages
-/

namespace PlatformClient.Charset.Page

/-- Thai on Windows. -/
def cp874 : Page :=
  ⟨0x80, [
    "€����…�����������‘’“”•–—��������\u00a0กขฃคฅฆงจฉชซฌญฎฏฐฑฒณดตถทธนบปผฝพฟภมยรฤลฦวศษสหฬอฮฯะ",
    "\u0e31าำ\u0e34\u0e35\u0e36\u0e37\u0e38\u0e39\u0e3a����฿เแโใไๅ\u0e46\u0e47\u0e48\u0e49",
    "\u0e4a\u0e4b\u0e4c\u0e4d\u0e4e๏๐๑๒๓๔๕๖๗๘๙๚๛����"]⟩

/-- Central European languages on Windows. -/
def cp1250 : Page :=
  ⟨0x80, [
    "€�‚�„…†‡�‰Š‹ŚŤŽŹ�‘’“”•–—�™š›śťžź\u00a0\u02c7\u02d8Ł¤Ą¦§\u00a8©Ş«¬\u00ad®Ż°±\u02dbł\u00b4",
    "µ¶·\u00b8ąş»Ľ\u02ddľżŔÁÂĂÄĹĆÇČÉĘËĚÍÎĎĐŃŇÓÔŐÖ×ŘŮÚŰÜÝŢßŕáâăäĺćçčéęëěíîďđńňóôőö÷řůúűüýţ",
    "\u02d9"]⟩

/-- Cyrillic on Windows. -/
def cp1251 : Page :=
  ⟨0x80, [
    "ЂЃ‚ѓ„…†‡€‰Љ‹ЊЌЋЏђ‘’“”•–—�™љ›њќћџ\u00a0ЎўЈ¤Ґ¦§Ё©Є«¬\u00ad®Ї°±Ііґµ¶·ё№є»јЅѕїАБВГДЕЖЗИЙКЛМН",
    "ОПРСТУФХЦЧШЩЪЫЬЭЮЯабвгдежзийклмнопрстуфхцчшщъыьэюя"]⟩

/-- Western European languages on Windows. -/
def cp1252 : Page :=
  ⟨0x80, [
    "€�‚ƒ„…†‡\u02c6‰Š‹Œ�Ž��‘’“”•–—\u02dc™š›œ�žŸ\u00a0¡¢£¤¥¦§\u00a8©ª«¬\u00ad®\u00af°±²³\u00b4",
    "µ¶·\u00b8¹º»¼½¾¿ÀÁÂÃÄÅÆÇÈÉÊËÌÍÎÏÐÑÒÓÔÕÖ×ØÙÚÛÜÝÞßàáâãäåæçèéêëìíîïðñòóôõö÷øùúûüýþÿ"]⟩

/-- Greek on Windows. -/
def cp1253 : Page :=
  ⟨0x80, [
    "€�‚ƒ„…†‡�‰�‹�����‘’“”•–—�™�›����\u00a0\u0385Ά£¤¥¦§\u00a8©�«¬\u00ad®―°±²³\u0384µ¶·ΈΉΊ»Ό½Ύ",
    "ΏΐΑΒΓΔΕΖΗΘΙΚΛΜΝΞΟΠΡ�ΣΤΥΦΧΨΩΪΫάέήίΰαβγδεζηθικλμνξοπρςστυφχψωϊϋόύώ�"]⟩

/-- Turkish on Windows. -/
def cp1254 : Page :=
  ⟨0x80, [
    "€�‚ƒ„…†‡\u02c6‰Š‹Œ����‘’“”•–—\u02dc™š›œ��Ÿ\u00a0¡¢£¤¥¦§\u00a8©ª«¬\u00ad®\u00af°±²³\u00b4",
    "µ¶·\u00b8¹º»¼½¾¿ÀÁÂÃÄÅÆÇÈÉÊËÌÍÎÏĞÑÒÓÔÕÖ×ØÙÚÛÜİŞßàáâãäåæçèéêëìíîïğñòóôõö÷øùúûüışÿ"]⟩

/-- Hebrew on Windows. -/
def cp1255 : Page :=
  ⟨0x80, [
    "€�‚ƒ„…†‡\u02c6‰�‹�����‘’“”•–—\u02dc™�›����\u00a0¡¢£₪¥¦§\u00a8©×«¬\u00ad®\u00af°±²³\u00b4",
    "µ¶·\u00b8¹÷»¼½¾¿\u05b0\u05b1\u05b2\u05b3\u05b4\u05b5\u05b6\u05b7\u05b8\u05b9�\u05bb",
    "\u05bc\u05bd־\u05bf׀\u05c1\u05c2׃װױײ׳״�������אבגדהוזחטיךכלםמןנסעףפץצקרשת��\u200e\u200f�"]⟩

/-- Arabic on Windows. -/
def cp1256 : Page :=
  ⟨0x80, [
    "€پ‚ƒ„…†‡\u02c6‰ٹ‹Œچژڈگ‘’“”•–—ک™ڑ›œ\u200c\u200dں\u00a0،¢£¤¥¦§\u00a8©ھ«¬\u00ad®\u00af°±²³",
    "\u00b4µ¶·\u00b8¹؛»¼½¾؟ہءآأؤإئابةتثجحخدذرزسشصض×طظعغ\u0640فقكàلâمنهوçèéêëىيîï\u064b\u064c",
    "\u064d\u064eô\u064f\u0650÷\u0651ù\u0652ûü\u200e\u200fے"]⟩

/-- Baltic languages on Windows. -/
def cp1257 : Page :=
  ⟨0x80, [
    "€�‚�„…†‡�‰�‹�\u00a8\u02c7\u00b8�‘’“”•–—�™�›�\u00af\u02db�\u00a0�¢£¤�¦§Ø©Ŗ«¬\u00ad®Æ°±²³",
    "\u00b4µ¶·ø¹ŗ»¼½¾æĄĮĀĆÄÅĘĒČÉŹĖĢĶĪĻŠŃŅÓŌÕÖ×ŲŁŚŪÜŻŽßąįāćäåęēčéźėģķīļšńņóōõö÷ųłśūüżž\u02d9"]⟩

/-- Vietnamese on Windows. -/
def cp1258 : Page :=
  ⟨0x80, [
    "€�‚ƒ„…†‡\u02c6‰�‹Œ����‘’“”•–—\u02dc™�›œ��Ÿ\u00a0¡¢£¤¥¦§\u00a8©ª«¬\u00ad®\u00af°±²³\u00b4",
    "µ¶·\u00b8¹º»¼½¾¿ÀÁÂĂÄÅÆÇÈÉÊË\u0300ÍÎÏĐÑ\u0309ÓÔƠÖ×ØÙÚÛÜƯ\u0303ßàáâăäåæçèéêë\u0301íîïđñ",
    "\u0323óôơö÷øùúûüư₫ÿ"]⟩

end PlatformClient.Charset.Page
