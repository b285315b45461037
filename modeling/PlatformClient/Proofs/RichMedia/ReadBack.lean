import PlatformClient.Proofs.Documents.Sent
import PlatformClient.Proofs.Record.Fields

/-!
# News and video messages are read back

A message is sent as an object that leaves out the fields without a value. Nothing else is lost on
the way: the object is read back as the same message, with its articles in order. The object is also
what remains without nulls of each checked value that means the message, whether its fields were
supplied as null or not at all.

## Main definitions

* `Article.IsChecked`, `News.IsChecked`, `Video.IsChecked`: the checked values that mean a message
* `Article.Keys`, `News.Keys`, `Video.Keys`: the names of the members that a message has
* `MessagesReadBack`: what is sent in a step that builds a message

## Main results

* `Article.represents`, `News.represents`, `Video.represents`: messages are told by their payloads
* `messages_readBack`: in every step, a message is read back, from members for its values only
-/

namespace PlatformClient

open Record

/-! ## Articles -/

theorem asText?_elim (text : Option String) :
    (text.elim Datum.null Datum.text).asText? = text := by
  cases text <;> rfl

theorem asInteger?_elim (number : Option Int) :
    (number.elim Datum.null Datum.integer).asInteger? = number := by
  cases number <;> rfl

namespace Article

/-- The members for the fields that an article must have. -/
def required (article : Article) : Members :=
  [
    ("thumb_media_id", .string article.thumbMediaId),
    ("title", .string article.title),
    ("content", .string article.content)
  ]

/-- The other fields of an article. -/
def optional (article : Article) : List (String × Option Json) :=
  [
    ("author", article.author.map .string),
    ("content_source_url", article.sourceUrl.map .string),
    ("digest", article.digest.map .string),
    ("show_cover_pic", article.showCover.map .integer)
  ]

theorem payload_eq (article : Article) :
    article.payload = .object (Members.told article.required article.optional) := by
  simp [payload, Members.told, required, optional]

theorem differentNames (article : Article) :
    Members.DifferentNames article.required article.optional := by
  have hnames : ["thumb_media_id", "title", "content", "author", "content_source_url", "digest",
    "show_cover_pic"].Nodup := by decide
  exact hnames

/-- The checked values of the fields of an article. -/
def values (article : Article) : List (String × Datum) :=
  [
    ("thumb_media_id", .text article.thumbMediaId),
    ("title", .text article.title),
    ("content", .text article.content),
    ("author", article.author.elim .null .text),
    ("content_source_url", article.sourceUrl.elim .null .text),
    ("digest", article.digest.elim .null .text),
    ("show_cover_pic", article.showCover.elim .null .integer)
  ]

/-- A checked value is an article, whichever of its fields were supplied. -/
abbrev IsChecked (article : Article) (datum : Datum) : Prop :=
  IsRecord "Article" article.values datum

variable {article : Article} {datum : Datum}

theorem IsChecked.ofDatum_eq (h : article.IsChecked datum) : ofDatum datum = article := by
  simp [ofDatum, h.field, values, asText?_elim, asInteger?_elim, Datum.asText]

/-- Articles are told by their payloads. -/
theorem represents : Represents form payload IsChecked where
  decode article := by
    have hnames := article.differentNames
    rw [payload_eq]
    refine exists_decode_record_iff.mpr ?_
    refine .cons (gives_text.reads_required hnames (by simp [required])) ?_
    refine .cons (gives_text.reads_required hnames (by simp [required])) ?_
    refine .cons (gives_text.reads_required hnames (by simp [required])) ?_
    refine .cons (gives_text.reads_optionalField hnames (by simp [optional])) ?_
    refine .cons (gives_text.reads_optionalField hnames (by simp [optional])) ?_
    refine .cons (gives_text.reads_optionalField hnames (by simp [optional])) ?_
    exact .cons (gives_integer.reads_optionalField hnames (by simp [optional])) .nil
  exists_of_decode h := by
    obtain ⟨members, values, -, hrecord, hreads⟩ := exists_of_decode_record h
    obtain ⟨thumbMediaId, _, rfl, htitle⟩ := gives_text.exists_of_required hreads
    obtain ⟨title, _, rfl, hcontent⟩ := gives_text.exists_of_required htitle
    obtain ⟨content, _, rfl, hauthor⟩ := gives_text.exists_of_required hcontent
    obtain ⟨author, _, rfl, hsourceUrl⟩ := gives_text.exists_of_optionalField hauthor
    obtain ⟨sourceUrl, _, rfl, hdigest⟩ := gives_text.exists_of_optionalField hsourceUrl
    obtain ⟨digest, _, rfl, hshowCover⟩ := gives_text.exists_of_optionalField hdigest
    obtain ⟨showCover, _, rfl, hnil⟩ := gives_integer.exists_of_optionalField hshowCover
    obtain rfl := List.forall₂_nil_left_iff.mp hnil
    exact ⟨⟨thumbMediaId, title, content, author, sourceUrl, digest, showCover⟩, hrecord⟩
  told h := by
    rw [h.toJson_withoutNulls, payload_eq]
    simp [values, gives_text.told, gives_text.told_elim, gives_integer.told_elim, required,
      optional, Members.told, optionalMember]

/-- The number of an article, if it has one, can be written. -/
def IsWritable (article : Article) : Prop :=
  ∀ n ∈ article.showCover, n.natAbs < Nat.pow 10 Text.digitLimit

theorem flat_members (h : article.IsWritable) :
    ∀ member ∈ Members.told article.required article.optional,
      member.2.Plain ∧ member.2.depth = 0 := by
  refine Members.forall_mem_told (p := fun value => value.Plain ∧ value.depth = 0) ?_ ?_
  · simp [required, Json.flat_string]
  · simpa [optional, Json.flat_string] using fun n hn => Json.flat_integer (h n hn)

theorem plain_payload (h : article.IsWritable) :
    article.payload.Plain ∧ article.payload.depth ≤ 1 := by
  have hflat := flat_members h
  rw [payload_eq]
  constructor
  · refine .object (Members.nodup_names_told article.differentNames) fun member hmember => ?_
    exact (hflat member hmember).1
  · exact Json.depth_le_one_of_flat fun member hmember => (hflat member hmember).2

/-- An object has the members of an article: those it must have, and the others that are set. -/
def Keys (article : Article) (document : Json) : Prop :=
  ∃ members : Members, document = .object members ∧
    members.Keys ["thumb_media_id", "title", "content"]
      [
        ("author", article.author.isSome),
        ("content_source_url", article.sourceUrl.isSome),
        ("digest", article.digest.isSome),
        ("show_cover_pic", article.showCover.isSome)
      ]

theorem keys_payload (article : Article) : article.Keys article.payload := by
  refine ⟨_, payload_eq article, ?_⟩
  simpa [required, optional, Members.names] using Members.keys_told article.differentNames

end Article

/-! ## News messages -/

namespace News

/-- A checked value is a news message, whichever of the fields of its articles were supplied. -/
def IsChecked (news : News) (datum : Datum) : Prop :=
  ∃ articles, IsRecord "News" [("articles", articles)] datum ∧
    IsList Article.IsChecked news.articles articles

variable {news : News} {datum : Datum}

theorem IsChecked.meaning_eq (h : news.IsChecked datum) : document.meaning datum = news := by
  obtain ⟨_, hrecord, items, rfl, hitems⟩ := h
  have hfield : datum.field "articles" = .list items := by simp [hrecord.field]
  have harticles : List.Forall₂ Eq news.articles (items.map Article.ofDatum) := by
    rw [List.forall₂_map_right_iff]
    exact hitems.imp fun _ _ hitem => hitem.ofDatum_eq.symm
  rw [List.forall₂_eq_eq_eq] at harticles
  simp [document, hfield, Datum.asList, ← harticles]

/-- News messages are told by their payloads. -/
theorem represents : Represents form payload IsChecked where
  decode news := by
    obtain ⟨articles, hdecode, harticles⟩ := Article.represents.list.decode news.articles
    have hreads : List.Forall₂ (Reads [("articles", .array (news.articles.map Article.payload))])
        [(.required "articles", .list Article.form)] [("articles", articles)] :=
      .cons (reads_required_iff.mpr ⟨rfl, _, rfl, hdecode⟩) .nil
    obtain ⟨datum, hdatum, hrecord⟩ := exists_decode_record_iff.mpr hreads
    exact ⟨datum, hdatum, articles, hrecord, harticles⟩
  exists_of_decode h := by
    obtain ⟨members, values, -, hrecord, hreads⟩ := exists_of_decode_record h
    obtain ⟨⟨name, value⟩, rest, hvalue, hrest, rfl⟩ := List.forall₂_cons_left_iff.mp hreads
    obtain rfl := List.forall₂_nil_left_iff.mp hrest
    obtain ⟨rfl, told, -, hdecode⟩ := reads_required_iff.mp hvalue
    obtain ⟨articles, harticles⟩ := Article.represents.list.exists_of_decode hdecode
    exact ⟨⟨articles⟩, value, hrecord, harticles⟩
  told := by
    rintro news datum ⟨articles, hrecord, harticles⟩
    have htold := Article.represents.list.told harticles
    obtain ⟨items, rfl, -⟩ := harticles
    rw [hrecord.toJson_withoutNulls]
    simp [told?, htold, payload, Members.told, optionalMember]

theorem plain_payload (h : ∀ article ∈ news.articles, article.IsWritable) :
    news.payload.Plain ∧ news.payload.depth ≤ 3 := by
  have hitems : ∀ item ∈ news.articles.map Article.payload, item.Plain ∧ item.depth ≤ 1 := by
    intro item hitem
    obtain ⟨article, harticle, rfl⟩ := List.mem_map.mp hitem
    exact Article.plain_payload (h article harticle)
  constructor
  · refine .object (List.nodup_singleton _) fun member hmember => ?_
    obtain rfl := List.mem_singleton.mp hmember
    exact .array fun item hitem => (hitems item hitem).1
  · have hdepth : Json.depthOfItems (news.articles.map Article.payload) ≤ 1 :=
      Json.depthOfItems_le_iff.mpr fun item hitem => (hitems item hitem).2
    simp only [payload, Json.depth, Json.depthOfMembers]
    omega

/-- An object has the members of a news message, and the items those of its articles. -/
def Keys (news : News) (document : Json) : Prop :=
  ∃ items, document = .object [("articles", .array items)] ∧
    List.Forall₂ Article.Keys news.articles items

theorem keys_payload (news : News) : news.Keys news.payload := by
  refine ⟨_, rfl, ?_⟩
  rw [List.forall₂_map_right_iff]
  exact List.forall₂_same.mpr fun article _ => article.keys_payload

end News

/-! ## Video messages -/

namespace Video

/-- The member for the field that a video message must have. -/
def required (video : Video) : Members := [("media_id", .string video.mediaId)]

/-- The other fields of a video message. -/
def optional (video : Video) : List (String × Option Json) :=
  [("title", video.title.map .string), ("description", video.description.map .string)]

theorem payload_eq (video : Video) :
    video.payload = .object (Members.told video.required video.optional) := by
  simp [payload, Members.told, required, optional]

theorem differentNames (video : Video) :
    Members.DifferentNames video.required video.optional := by
  have hnames : ["media_id", "title", "description"].Nodup := by decide
  exact hnames

/-- The checked values of the fields of a video message. -/
def values (video : Video) : List (String × Datum) :=
  [
    ("media_id", .text video.mediaId),
    ("title", video.title.elim .null .text),
    ("description", video.description.elim .null .text)
  ]

/-- A checked value is a video message, whichever of its fields were supplied. -/
abbrev IsChecked (video : Video) (datum : Datum) : Prop :=
  IsRecord "Video" video.values datum

theorem IsChecked.meaning_eq {video : Video} {datum : Datum} (h : video.IsChecked datum) :
    document.meaning datum = video := by
  simp [document, h.field, values, asText?_elim, Datum.asText]

/-- Video messages are told by their payloads. -/
theorem represents : Represents form payload IsChecked where
  decode video := by
    have hnames := video.differentNames
    rw [payload_eq]
    refine exists_decode_record_iff.mpr ?_
    refine .cons (gives_text.reads_required hnames (by simp [required])) ?_
    refine .cons (gives_text.reads_optionalField hnames (by simp [optional])) ?_
    exact .cons (gives_text.reads_optionalField hnames (by simp [optional])) .nil
  exists_of_decode h := by
    obtain ⟨members, values, -, hrecord, hreads⟩ := exists_of_decode_record h
    obtain ⟨mediaId, _, rfl, htitle⟩ := gives_text.exists_of_required hreads
    obtain ⟨title, _, rfl, hdescription⟩ := gives_text.exists_of_optionalField htitle
    obtain ⟨description, _, rfl, hnil⟩ := gives_text.exists_of_optionalField hdescription
    obtain rfl := List.forall₂_nil_left_iff.mp hnil
    exact ⟨⟨mediaId, title, description⟩, hrecord⟩
  told h := by
    rw [h.toJson_withoutNulls, payload_eq]
    simp [values, gives_text.told, gives_text.told_elim, required, optional, Members.told,
      optionalMember]

theorem plain_payload (video : Video) :
    video.payload.Plain ∧ video.payload.depth ≤ 1 := by
  have hflat : ∀ member ∈ Members.told video.required video.optional,
      member.2.Plain ∧ member.2.depth = 0 := by
    refine Members.forall_mem_told (p := fun value => value.Plain ∧ value.depth = 0) ?_ ?_
    · simp [required, Json.flat_string]
    · simp [optional, Json.flat_string]
  rw [payload_eq]
  exact Json.plain_of_flat (Members.nodup_names_told video.differentNames) hflat

/-- An object has the members of a video message: the one it must have, and the others that are
set. -/
def Keys (video : Video) (document : Json) : Prop :=
  ∃ members : Members, document = .object members ∧
    members.Keys ["media_id"]
      [("title", video.title.isSome), ("description", video.description.isSome)]

theorem keys_payload (video : Video) : video.Keys video.payload := by
  refine ⟨_, payload_eq video, ?_⟩
  simpa [required, optional, Members.names] using Members.keys_told video.differentNames

end Video

/-! ## Each step -/

variable {τ : Type} [Instant τ]

namespace Operation

theorem sendsDocument_uploadNews {news : News}
    (h : ∀ article ∈ news.articles, article.IsWritable) :
    SendsDocument news.payload (uploadNews (some news) : Operation τ Upload) := by
  obtain ⟨hplain, hdepth⟩ := News.plain_payload h
  unfold uploadNews require
  rw [pure_bind]
  refine SendsDocument.behind_say fun _ => ?_
  exact sendsDocument_posted hplain hdepth _ fun answer => logsOnly_decode _ answer

theorem sendsDocument_uploadVideo (video : Video) :
    SendsDocument video.payload (uploadVideo (some video) : Operation τ Upload) := by
  obtain ⟨hplain, hdepth⟩ := video.plain_payload
  unfold uploadVideo require
  rw [pure_bind]
  refine SendsDocument.behind_say fun _ => ?_
  exact sendsDocument_posted hplain (Nat.le_trans hdepth (by decide)) _ fun answer =>
    logsOnly_decode _ answer

end Operation

/-- What is sent in a step that builds a message is read back as that message, and has members for
the fields with a value only. -/
structure MessagesReadBack (step : Step τ) : Prop where
  news : ∀ news, step.turn.action = .uploadNews (some news) →
    (∀ article ∈ news.articles, article.IsWritable) →
    ∃ document, step.SendsBack document ∧ News.document.Tells news document ∧ news.Keys document
  video : ∀ video, step.turn.action = .uploadVideo (some video) →
    ∃ document, step.SendsBack document ∧ Video.document.Tells video document ∧
      video.Keys document

/-- **The messages that are sent.** In every step, a message loses nothing on its way but the fields
without a value. -/
theorem messages_readBack (step : Step τ) : MessagesReadBack step := by
  constructor
  · intro news haction hwritable
    refine ⟨news.payload, ?_, News.represents.tells News.document News.IsChecked.meaning_eq news,
      news.keys_payload⟩
    exact step.sendsBack (congrArg Action.operation haction)
      (Operation.sendsDocument_uploadNews hwritable) (News.plain_payload hwritable).1
  · intro video haction
    refine ⟨video.payload, ?_, Video.represents.tells Video.document Video.IsChecked.meaning_eq
      video, video.keys_payload⟩
    exact step.sendsBack (congrArg Action.operation haction)
      (Operation.sendsDocument_uploadVideo video) video.plain_payload.1

/-- Two articles, one of which has an author and shows its cover, and a video message with a title
only. -/
theorem messages_readBack_of_trial :
    let news : News :=
      ⟨[⟨"m", "é", "", some "\"", none, none, some (-1)⟩, ⟨"n", "", "", none, none, some "", none⟩]⟩
    let video : Video := ⟨"v", some "t", none⟩
    (∃ body document, (trialStep (.uploadNews (some news))).bodies = [body] ∧
      document.IsReadFrom body ∧ News.document.read document = .ok news ∧
      news.Keys document) ∧
    ∃ body document, (trialStep (.uploadVideo (some video))).bodies = [body] ∧
      document.IsReadFrom body ∧ Video.document.read document = .ok video ∧
      video.Keys document := by
  intro news video
  have hwritable : ∀ article ∈ news.articles, article.IsWritable := by
    simp [news, Article.IsWritable]
    decide +kernel
  constructor
  · obtain ⟨document, hsent, htells, hkeys⟩ :=
      (messages_readBack (trialStep (.uploadNews (some news)))).news news rfl hwritable
    obtain ⟨body, hbody, hread⟩ := hsent.sent "T" (trialStep_obtains _)
    exact ⟨body, document, hbody, hread, htells.read, hkeys⟩
  · obtain ⟨document, hsent, htells, hkeys⟩ :=
      (messages_readBack (trialStep (.uploadVideo (some video)))).video video rfl
    obtain ⟨body, hbody, hread⟩ := hsent.sent "T" (trialStep_obtains _)
    exact ⟨body, document, hbody, hread, htells.read, hkeys⟩

end PlatformClient
