/-!
# The table of content types

The registered content types with their file extensions.

## Main definitions

* `ContentType.table`: content types with the extensions that belong to each
-/

namespace PlatformClient.ContentType

/-- Content types with the extensions that belong to each, in small letters. -/
def table : List (String × List String) :=
  [
    ("application/javascript", [".js", ".mjs"]),
    ("application/json", [".json"]),
    ("application/manifest+json", [".webmanifest"]),
    ("application/msword", [".doc", ".dot", ".wiz"]),
    ("application/n-quads", [".nq"]),
    ("application/n-triples", [".nt"]),
    ("application/octet-stream", [".a", ".bin", ".dll", ".exe", ".o", ".obj", ".so"]),
    ("application/oda", [".oda"]),
    ("application/pdf", [".pdf"]),
    ("application/pkcs7-mime", [".p7c"]),
    ("application/postscript", [".ai", ".eps", ".ps"]),
    ("application/trig", [".trig"]),
    ("application/vnd.apple.mpegurl", [".m3u", ".m3u8"]),
    ("application/vnd.ms-excel", [".xlb", ".xls"]),
    ("application/vnd.ms-powerpoint", [".pot", ".ppa", ".pps", ".ppt", ".pwz"]),
    ("application/wasm", [".wasm"]),
    ("application/x-bcpio", [".bcpio"]),
    ("application/x-cpio", [".cpio"]),
    ("application/x-csh", [".csh"]),
    ("application/x-dvi", [".dvi"]),
    ("application/x-gtar", [".gtar"]),
    ("application/x-hdf", [".hdf"]),
    ("application/x-hdf5", [".h5"]),
    ("application/x-latex", [".latex"]),
    ("application/x-mif", [".mif"]),
    ("application/x-netcdf", [".cdf", ".nc"]),
    ("application/x-pkcs12", [".p12", ".pfx"]),
    ("application/x-pn-realaudio", [".ram"]),
    ("application/x-python-code", [".pyc", ".pyo"]),
    ("application/x-sh", [".sh"]),
    ("application/x-shar", [".shar"]),
    ("application/x-shockwave-flash", [".swf"]),
    ("application/x-sv4cpio", [".sv4cpio"]),
    ("application/x-sv4crc", [".sv4crc"]),
    ("application/x-tar", [".tar"]),
    ("application/x-tcl", [".tcl"]),
    ("application/x-tex", [".tex"]),
    ("application/x-texinfo", [".texi", ".texinfo"]),
    ("application/x-troff", [".roff", ".t", ".tr"]),
    ("application/x-troff-man", [".man"]),
    ("application/x-troff-me", [".me"]),
    ("application/x-troff-ms", [".ms"]),
    ("application/x-ustar", [".ustar"]),
    ("application/x-wais-source", [".src"]),
    ("application/xml", [".rdf", ".wsdl", ".xpdl", ".xsl"]),
    ("application/zip", [".zip"]),
    ("audio/3gpp", [".3gp", ".3gpp"]),
    ("audio/3gpp2", [".3g2", ".3gpp2"]),
    ("audio/aac", [".aac", ".adts", ".ass", ".loas"]),
    ("audio/basic", [".au", ".snd"]),
    ("audio/mpeg", [".mp2", ".mp3"]),
    ("audio/opus", [".opus"]),
    ("audio/x-aiff", [".aif", ".aifc", ".aiff"]),
    ("audio/x-pn-realaudio", [".ra"]),
    ("audio/x-wav", [".wav"]),
    ("image/avif", [".avif"]),
    ("image/bmp", [".bmp"]),
    ("image/gif", [".gif"]),
    ("image/heic", [".heic"]),
    ("image/heif", [".heif"]),
    ("image/ief", [".ief"]),
    ("image/jpeg", [".jpe", ".jpeg", ".jpg"]),
    ("image/png", [".png"]),
    ("image/svg+xml", [".svg"]),
    ("image/tiff", [".tif", ".tiff"]),
    ("image/vnd.microsoft.icon", [".ico"]),
    ("image/x-cmu-raster", [".ras"]),
    ("image/x-portable-anymap", [".pnm"]),
    ("image/x-portable-bitmap", [".pbm"]),
    ("image/x-portable-graymap", [".pgm"]),
    ("image/x-portable-pixmap", [".ppm"]),
    ("image/x-rgb", [".rgb"]),
    ("image/x-xbitmap", [".xbm"]),
    ("image/x-xpixmap", [".xpm"]),
    ("image/x-xwindowdump", [".xwd"]),
    ("message/rfc822", [".eml", ".mht", ".mhtml", ".nws"]),
    ("text/css", [".css"]),
    ("text/csv", [".csv"]),
    ("text/html", [".htm", ".html"]),
    ("text/n3", [".n3"]),
    ("text/plain", [".bat", ".c", ".h", ".ksh", ".pl", ".srt", ".txt"]),
    ("text/richtext", [".rtx"]),
    ("text/tab-separated-values", [".tsv"]),
    ("text/vtt", [".vtt"]),
    ("text/x-python", [".py"]),
    ("text/x-setext", [".etx"]),
    ("text/x-sgml", [".sgm", ".sgml"]),
    ("text/x-vcard", [".vcf"]),
    ("text/xml", [".xml"]),
    ("video/mp4", [".mp4"]),
    ("video/mpeg", [".m1v", ".mpa", ".mpe", ".mpeg", ".mpg"]),
    ("video/quicktime", [".mov", ".qt"]),
    ("video/webm", [".webm"]),
    ("video/x-msvideo", [".avi"]),
    ("video/x-sgi-movie", [".movie"])
  ]

end PlatformClient.ContentType
