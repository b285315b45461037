import PlatformClient.Record.Document

/-!
# News and video messages

Messages are built from media that have been uploaded before. They are sent as objects from which
the fields without a value are left out.

## Main definitions

* `Article`, `News`, `Video`: the messages
* `Article.form`, `News.form`, `Video.form`: the forms of documents that describe them
* `News.document`, `Video.document`: the kinds of those documents
* `News.payload`, `Video.payload`: the objects that are sent
-/

namespace PlatformClient

open Record

/-- An article of a news message. -/
structure Article where
  thumbMediaId : String
  title : String
  content : String
  author : Option String
  sourceUrl : Option String
  digest : Option String
  showCover : Option Int
deriving DecidableEq

/-- A news message. -/
structure News where
  articles : List Article
deriving DecidableEq

/-- A video message. -/
structure Video where
  mediaId : String
  title : Option String
  description : Option String
deriving DecidableEq

/-- A field that may be absent or null. -/
def optionalField (name : String) (form : Form) : Label × Form :=
  (.withDefault name .null, .optional form)

/-- A member that is left out without a value. -/
def optionalMember (name : String) (value : Option Json) : Members :=
  value.toList.map (name, ·)

namespace Article

/-- The form of articles. -/
def form : Form :=
  .record "Article"
    [
      (.required "thumb_media_id", .text),
      (.required "title", .text),
      (.required "content", .text),
      optionalField "author" .text,
      optionalField "content_source_url" .text,
      optionalField "digest" .text,
      optionalField "show_cover_pic" .integer
    ]
    false

/-- The article a checked value means. -/
def ofDatum (datum : Datum) : Article where
  thumbMediaId := (datum.field "thumb_media_id").asText
  title := (datum.field "title").asText
  content := (datum.field "content").asText
  author := (datum.field "author").asText?
  sourceUrl := (datum.field "content_source_url").asText?
  digest := (datum.field "digest").asText?
  showCover := (datum.field "show_cover_pic").asInteger?

/-- The object that describes an article. -/
def payload (article : Article) : Json :=
  .object <|
    [
      ("thumb_media_id", .string article.thumbMediaId),
      ("title", .string article.title),
      ("content", .string article.content)
    ] ++
    optionalMember "author" (article.author.map .string) ++
    optionalMember "content_source_url" (article.sourceUrl.map .string) ++
    optionalMember "digest" (article.digest.map .string) ++
    optionalMember "show_cover_pic" (article.showCover.map .integer)

end Article

namespace News

/-- The form of news messages. -/
def form : Form := .record "News" [(.required "articles", .list Article.form)] false

/-- The documents that describe a news message. -/
def document : Document News :=
  ⟨form, fun datum => ⟨(datum.field "articles").asList.map Article.ofDatum⟩⟩

/-- The object that is sent for a news message. -/
def payload (news : News) : Json :=
  .object [("articles", .array (news.articles.map Article.payload))]

end News

namespace Video

/-- The form of video messages. -/
def form : Form :=
  .record "Video"
    [
      (.required "media_id", .text),
      optionalField "title" .text,
      optionalField "description" .text
    ]
    false

/-- The documents that describe a video message. -/
def document : Document Video :=
  ⟨form, fun datum =>
    ⟨(datum.field "media_id").asText, (datum.field "title").asText?,
      (datum.field "description").asText?⟩⟩

/-- The object that is sent for a video message. -/
def payload (video : Video) : Json :=
  .object <|
    [("media_id", .string video.mediaId)] ++
    optionalMember "title" (video.title.map .string) ++
    optionalMember "description" (video.description.map .string)

end Video

end PlatformClient
