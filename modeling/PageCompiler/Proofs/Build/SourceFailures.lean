import PageCompiler.CommandLine.Run
import PageCompiler.Proofs.Disk
import PageCompiler.Proofs.Markup.Unreadable
import PageCompiler.Proofs.Text.Utf8

/-!
# Sources that cannot be loaded

A source that is a file loads, or is refused as no text, or it holds markup that cannot be read. The
first failure is one that a build reports, the second is not foreseen : a build ends with it and
prints nothing.
-/

namespace PageCompiler.Build

open Component (Registry)
open CommandLine (buildQuietly endingOf)
open Markup (HasLongReference Token Unreadable)

/-- A page is loaded, or the failure is one that a build reports. -/
inductive Reported : Except Failure Page → Prop
  | loaded (page : Page) : Reported (.ok page)
  | refused (error : BuildError) : Reported (.error (.build error))

/-- The characters of a source with some text. -/
def sourceChars (text : String) : List Char :=
  Text.joinLineEnds text.toList

/-- What a build loads before its source : the settings, and the registry unless one is given. -/
def prepare (disk : Disk) (environment : Environment) (given : Keyed Json)
    (registry : Option Registry) : Said (Settings × Registry) :=
  (loadSettings disk environment given).andThen fun settings =>
    match registry, settings.registry with
    | some registry, _ => .ok (settings, registry)
    | none, none => .ok (settings, Registry.base)
    | none, some path =>
      (loadRegistry disk path path.text).andThen fun registry => .ok (settings, registry)

variable {disk : Disk} {path : Path} {bytes : List UInt8} {shown : String}

theorem loadPage_of_not_text (h : disk.read path = .ok bytes) (shown : String)
    (hno : ¬∃ text, bytes = Disk.encode text) : ∃ e, Text.decode bytes = .error e ∧
      loadPage disk path shown = .error (.build (.sourceNotText shown e)) := by
  cases hread : Text.readText bytes with
  | ok text =>
    obtain ⟨written, hbytes, -⟩ := Text.readText_eq_ok_iff.1 hread
    exact absurd ⟨written, hbytes⟩ hno
  | error e =>
    exact ⟨e, map_eq_error hread, by simp only [loadPage, Disk.isFile_of_read h, h, hread]⟩

theorem loadPage_of_text {text : String} (h : disk.read path = .ok (Disk.encode text)) :
    loadPage disk path shown =
      (Page.ofMarkup (String.ofList (sourceChars text))).mapError .markup := by
  have hread : Text.readText (Disk.encode text) = .ok (String.ofList (sourceChars text)) :=
    Text.readText_eq_ok_iff.2 ⟨text, rfl, rfl⟩
  simp only [loadPage, Disk.isFile_of_read h, h, hread]

theorem exists_markup_error {text : String} {failure : Failure}
    (h : disk.read path = .ok (Disk.encode text))
    (hfailure : loadPage disk path shown = .error failure) : ∃ e back, failure = .markup e ∧
      back <:+ sourceChars text ∧ Unreadable back e := by
  rw [loadPage_of_text h] at hfailure
  cases hparse : Markup.parse (String.ofList (sourceChars text)) with
  | ok document =>
    rw [Page.ofMarkup, hparse] at hfailure
    cases hfailure
  | error e =>
    rw [Page.ofMarkup, hparse] at hfailure
    obtain ⟨back, hback, hunreadable⟩ := Markup.unreadable_of_parse hparse
    rw [String.toList_ofList] at hback
    exact ⟨e, back, (Except.error.inj hfailure).symm, hback, hunreadable⟩

theorem exists_page {text : String} (h : disk.read path = .ok (Disk.encode text))
    (hopening : ¬['<', '!', '['] <:+: sourceChars text)
    (hlong : ¬HasLongReference (sourceChars text)) :
    ∃ page, loadPage disk path shown = .ok page := by
  rw [← String.toList_ofList (l := sourceChars text)] at hopening hlong
  obtain ⟨document, hdocument⟩ := Markup.exists_parse_eq_ok hopening hlong
  exact ⟨Page.ofDocument document, by rw [loadPage_of_text h, Page.ofMarkup, hdocument]; rfl⟩

theorem exists_markup_error_of_unreadable {text : String} {tokens : List Token}
    {back : List Char} {e : Markup.Error} (h : disk.read path = .ok (Disk.encode text))
    (htokens : ∀ token ∈ tokens, token.IsPlain) (hback : Unreadable back e)
    (htext : sourceChars text = Token.charsOf tokens ++ back) :
    ∃ found, loadPage disk path shown = .error (.markup found) := by
  obtain ⟨found, hfound⟩ := Markup.exists_parse_eq_error htokens hback
  exact ⟨found, by rw [loadPage_of_text h, htext, Page.ofMarkup, hfound]; rfl⟩

/-! ## The build -/

theorem buildFrom_eq (disk : Disk) (environment : Environment) (given : Keyed Json)
    (registry : Option Registry) : buildFrom disk environment given registry =
      match (prepare disk environment given registry).result with
      | .error failure => ⟨disk, .error failure, (prepare disk environment given registry).log⟩
      | .ok (settings, known) =>
        let built := build disk settings known true
        { built with log := (prepare disk environment given registry).log ++ built.log } :=
  rfl

/-- A build whose source cannot be loaded ends with that failure, and the disk is as it was. -/
theorem buildFrom_of_loadPage {environment : Environment} {given : Keyed Json}
    {registry : Option Registry} {settings : Settings} {known : Registry} {failure : Failure}
    (h : (prepare disk environment given registry).result = .ok (settings, known))
    (hload : loadPage disk settings.source settings.source.text = .error failure) :
    (buildFrom disk environment given registry).disk = disk ∧
      (buildFrom disk environment given registry).result = .error failure := by
  have hbuild : build disk settings known true =
      ⟨disk, .error failure, [⟨.info, "Loading " ++ settings.source.text⟩]⟩ := by
    rw [build, hload]
  rw [buildFrom_eq, h]
  dsimp only
  rw [hbuild]
  exact ⟨rfl, rfl⟩

/-- Loading a source that is a file, whatever its bytes. It gives a page or a failure that a build
reports, or it holds markup that cannot be read. Bytes that are no text are refused as that. A text
in which no marked section opens and no decimal reference has too many digits gives a page; one with
a construct that cannot be read behind plain tokens gives none, whatever follows. A build that comes
to load the source prints the first kind of failure, after `ERROR : `, and ends with status one.
With the second kind it ends as with a failure that nothing was prepared for, and prints nothing. -/
theorem loadPage_of_file (h : disk.read path = .ok bytes) (shown : String) :
    (Reported (loadPage disk path shown) ∨ ∃ text e back, bytes = Disk.encode text ∧
      back <:+ sourceChars text ∧ Unreadable back e ∧
      loadPage disk path shown = .error (.markup e)) ∧
    ((¬∃ text, bytes = Disk.encode text) → ∃ e, Text.decode bytes = .error e ∧
      loadPage disk path shown = .error (.build (.sourceNotText shown e))) ∧
    (∀ text, bytes = Disk.encode text → ¬['<', '!', '['] <:+: sourceChars text →
      ¬HasLongReference (sourceChars text) → ∃ page, loadPage disk path shown = .ok page) ∧
    (∀ text, bytes = Disk.encode text → ∀ tokens back e, (∀ token ∈ tokens, token.IsPlain) →
      Unreadable back e → sourceChars text = Token.charsOf tokens ++ back →
        ∃ found, loadPage disk path shown = .error (.markup found)) ∧
    ∀ environment given registry settings known,
      (prepare disk environment given registry).result = .ok (settings, known) →
      settings.source = path → ∀ failure, loadPage disk path path.text = .error failure →
        (buildQuietly disk environment given registry).status = 1 ∧
        (buildQuietly disk environment given registry).disk = disk ∧
        (∀ error, failure = .build error →
          (buildQuietly disk environment given registry).printed =
            "ERROR : " ++ error.message ++ "\n" ∧
          (buildQuietly disk environment given registry).mishap = none) ∧
        ∀ error, failure = .markup error →
          (buildQuietly disk environment given registry).printed = "" ∧
          (buildQuietly disk environment given registry).mishap =
            some (.failure (.markup error)) := by
  refine ⟨?_, loadPage_of_not_text h shown, ?_, ?_, ?_⟩
  · by_cases htext : ∃ text, bytes = Disk.encode text
    · obtain ⟨text, rfl⟩ := htext
      cases hload : loadPage disk path shown with
      | ok page => exact .inl (.loaded page)
      | error failure =>
        obtain ⟨e, back, rfl, hback, hunreadable⟩ := exists_markup_error h hload
        exact .inr ⟨text, e, back, rfl, hback, hunreadable, rfl⟩
    · obtain ⟨e, -, hload⟩ := loadPage_of_not_text h shown htext
      exact .inl (hload ▸ .refused _)
  · rintro text rfl hopening hlong
    exact exists_page h hopening hlong
  · rintro text rfl tokens back e htokens hback htext
    exact exists_markup_error_of_unreadable h htokens hback htext
  · rintro environment given registry settings known hprepared rfl failure hload
    obtain ⟨hdisk, hresult⟩ := buildFrom_of_loadPage hprepared hload
    have hending : (buildQuietly disk environment given registry).status = 1 ∧
        (buildQuietly disk environment given registry).disk = disk := by
      rw [buildQuietly, endingOf, hresult]
      cases failure <;> exact ⟨rfl, hdisk⟩
    refine ⟨hending.1, hending.2, ?_, ?_⟩ <;>
    · rintro error rfl
      rw [buildQuietly, endingOf, hresult]
      exact ⟨rfl, rfl⟩

/-- The source of a build that is given nothing else. -/
def indexGiven : Keyed Json :=
  [("source", .text "index.html")]

/-- A disk with a source of some bytes. -/
def indexDisk (bytes : List UInt8) : Disk :=
  ⟨[(["index.html"], .file bytes)], []⟩

/-- A word in Latin-1, whose last byte begins a character in UTF-8. -/
def latinBytes : List UInt8 :=
  [0x63, 0x61, 0x66, 0xE9]

theorem loadPage_of_file_latin :
    (indexDisk latinBytes).read (.ofText "index.html") = .ok latinBytes ∧
    (¬∃ text, latinBytes = Disk.encode text) ∧
    (buildQuietly (indexDisk latinBytes) [] indexGiven none).printed =
      "ERROR : cannot read source file index.html: not valid UTF-8 " ++
        "(unexpected end of data at byte 3)\n" := by
  have hread : (indexDisk latinBytes).read (.ofText "index.html") = .ok latinBytes := by decide
  have hdecode : Text.decode latinBytes = .error ⟨.unexpectedEnd, 3, 0xE9, 1⟩ := by decide +kernel
  have hno : ¬∃ text, latinBytes = Disk.encode text := by
    rintro ⟨text, htext⟩
    rw [Text.decode_eq_ok_iff.2 htext] at hdecode
    cases hdecode
  have hprepare : ((prepare (indexDisk latinBytes) [] indexGiven none).result.toOption.any
      fun found => found.1.source = .ofText "index.html") = true := by decide +kernel
  obtain ⟨⟨settings, known⟩, hprepared, hsource⟩ := exists_ok_of_any hprepare
  obtain ⟨-, hnotText, -, -, hbuild⟩ :=
    loadPage_of_file hread (Path.ofText "index.html").text
  obtain ⟨e, he, hload⟩ := hnotText hno
  obtain rfl := Except.error.inj (hdecode.symm.trans he)
  obtain ⟨-, -, hprinted, -⟩ :=
    hbuild [] indexGiven none settings known hprepared (of_decide_eq_true hsource) _ hload
  refine ⟨hread, hno, (hprinted _ rfl).1.trans ?_⟩
  decide +kernel

/-- A page with a marked section whose keyword is none. -/
def noteMarkup : String :=
  "<p>x<![note]></p>"

/-- A disk with that page. -/
def noteDisk : Disk :=
  indexDisk (Disk.encode noteMarkup)

/-- Markup that cannot be read is not reported, neither by loading nor by the build. -/
theorem markup_not_reported :
    noteDisk.read (.ofText "index.html") = .ok (Disk.encode noteMarkup) ∧
    ¬Reported (loadPage noteDisk (.ofText "index.html") "index.html") ∧
    (buildQuietly noteDisk [] indexGiven none).printed = "" ∧
    (buildQuietly noteDisk [] indexGiven none).mishap =
      some (.failure (.markup (.unknownSection "note"))) := by
  have hload : loadPage noteDisk (.ofText "index.html") "index.html" =
      .error (.markup (.unknownSection "note")) := by decide +kernel
  have hprepare : ((prepare noteDisk [] indexGiven none).result.toOption.any
      fun found => found.1.source = .ofText "index.html") = true := by decide +kernel
  obtain ⟨⟨settings, known⟩, hprepared, hsource⟩ := exists_ok_of_any hprepare
  have hsettings : loadPage noteDisk settings.source settings.source.text =
      .error (.markup (.unknownSection "note")) := by
    rw [of_decide_eq_true hsource]
    exact hload
  obtain ⟨-, hresult⟩ := buildFrom_of_loadPage hprepared hsettings
  refine ⟨by decide +kernel, ?_, ?_, ?_⟩
  · rw [hload]
    rintro ⟨⟩
  · rw [buildQuietly, endingOf, hresult]
  · rw [buildQuietly, endingOf, hresult]

end PageCompiler.Build
