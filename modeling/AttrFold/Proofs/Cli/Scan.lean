import AttrFold.Cli.Run
import AttrFold.Proofs.Session
import AttrFold.Proofs.Store.Settings

/-!
# What a scan lists

A scan gathers the spans bucket by bucket and sorts them by where they start, which has to bring
back the order of the document.

## The crux

The rows are a permutation of the spans, each with its disposition (`perm_bucketRows`), since the
buckets share the spans out. Sorting compares nothing but starts, so it has one outcome only if no
two spans start at one position: spans are not empty and do not overlap, and the position of a later
offset is greater, also across lines (`pairwise_start_spans`).

* **`scan_lists_each_span_once`** — the rows, the lines that are printed, and the count.
-/

namespace AttrFold

namespace Position

theorem le_total (p q : Position) : (decide (p ≤ q) || decide (q ≤ p)) = true := by
  rw [Bool.or_eq_true, decide_eq_true_iff, decide_eq_true_iff, le_def, le_def]
  omega

end Position

/-- Spans start one after the other. -/
theorem Document.pairwise_start_spans (d : Document) (mode : Mode) :
    (d.spans mode).Pairwise fun s u => s.range.start < u.range.start := by
  refine (d.pairwise_spans mode).imp fun ⟨a, b, hs, hu, hle⟩ => ?_
  have hpos := List.length_pos_iff.mpr hs.nonempty
  have hstop := hu.stop_le
  rw [hs.range, hu.range]
  exact d.positionAt_lt (by omega) (by omega)

namespace Cli

variable {fs : Files} {env : Environment} {args : List Text} {store path : Path}
  {language : Option Text} {selections : List Selection} {src : Source} {d : Document}

/-! ## The rows -/

/-- The spans of a classification with their dispositions, bucket by bucket. -/
def bucketRows (c : Classification) : List (Span × Disposition) :=
  [Disposition.unfolded, .faded, .folded].flatMap fun x => (c.bucket x).map fun span => (span, x)

section Rows

variable (s : Settings) (selections : List Selection) (wrapColumn : Option Int) (spans : List Span)

/-- The rows of the three buckets are the spans with their dispositions. -/
theorem perm_bucketRows : (bucketRows (s.classify selections wrapColumn spans)).Perm
    (spans.map fun span => (span, s.dispose selections (s.lengthCap wrapColumn) span)) := by
  -- a bucket holds the spans of one disposition, so a row is labelled with that of its own span
  have hrow : ∀ x, ((s.classify selections wrapColumn spans).bucket x).map (fun span => (span, x))
      = ((s.classify selections wrapColumn spans).bucket x).map fun span =>
          (span, s.dispose selections (s.lengthCap wrapColumn) span) := by
    intro x
    refine List.map_congr_left fun span hspan => ?_
    rw [((s.mem_bucket_classify_iff selections wrapColumn spans x span).mp hspan).2]
  have hbuckets := (s.perm_classify selections wrapColumn spans).map fun span =>
    (span, s.dispose selections (s.lengthCap wrapColumn) span)
  unfold bucketRows
  rw [List.flatMap_congr fun x _ => hrow x]
  simpa [Classification.bucket] using hbuckets

/-- Spans that start one after the other are listed in their order. -/
theorem scanRows_classify (h : spans.Pairwise fun u v => u.range.start < v.range.start) :
    scanRows (s.classify selections wrapColumn spans)
      = spans.map fun span => (span, s.dispose selections (s.lengthCap wrapColumn) span) := by
  have hperm := perm_bucketRows s selections wrapColumn spans
  have hsorted :
      (spans.map fun span =>
        (span, s.dispose selections (s.lengthCap wrapColumn) span)).Pairwise
      fun a b => decide (a.1.range.start ≤ b.1.range.start) = true := by
    refine List.pairwise_map.mpr (h.imp fun hlt => ?_)
    exact decide_eq_true (Position.le_of_lt hlt)
  -- both lists are sorted and hold the same rows
  refine List.Perm.eq_of_pairwise (fun a b ha hb hab hba => ?_)
    (List.pairwise_mergeSort (fun a b c hab hbc => ?_) (fun a b => Position.le_total _ _) _) hsorted
    ((List.mergeSort_perm _ _).trans hperm)
  · -- two rows that start at one position are one row
    obtain ⟨u, hu, rfl⟩ := List.mem_map.mp (hperm.mem_iff.mp (List.mem_mergeSort.mp ha))
    obtain ⟨v, hv, rfl⟩ := List.mem_map.mp hb
    by_contra hne
    have hdiffer : u ≠ v := fun heq => hne (heq ▸ rfl)
    rcases or_of_pairwise h hu hv hdiffer with hlt | hlt
    · exact Position.not_le.mpr hlt (of_decide_eq_true hba)
    · exact Position.not_le.mpr hlt (of_decide_eq_true hab)
  · rw [decide_eq_true_iff] at *
    exact Position.le_trans hab hbc

end Rows

/-! ## The command -/

/-- The arguments ask for a scan of a file with selections, and this is the settings file that they
or the environment name. -/
def AsksScan (env : Environment) (args : List Text) (store path : Path) (language : Option Text)
    (selections : List Selection) : Prop :=
  ∃ inv name texts, Invocation.read args = .ok inv ∧ inv.command = .scan name language texts
    ∧ path = .ofText name ∧ Selection.allOfTexts texts = .ok selections
    ∧ FileStore.path (inv.settings.or env.settings) env.home = .ok store

/-- Arguments that ask for a scan run one, with the store, path, language and selections that they
name. -/
theorem run_of_asksScan (h : AsksScan env args store path language selections) (fs : Files)
    (batches : List Batch) :
    (run fs env batches args).files = (runScan fs store path language selections).files
      ∧ (run fs env batches args).failure = (runScan fs store path language selections).failure
      ∧ (run fs env batches args).output = (runScan fs store path language selections).output := by
  obtain ⟨inv, name, texts, hread, hcommand, rfl, htexts, hstore⟩ := h
  have hrun : inv.run fs env batches = runScan fs store (.ofText name) language selections := by
    rw [Invocation.run, hcommand]
    simp only [withSelections, htexts, withStore, hstore]
  rw [run_of_read hread, hrun]
  exact ⟨rfl, rfl, rfl⟩

/-- A document in an enabled language is classified under the settings that are stored. -/
theorem runScan_of_supported (hsource : FileStore.source fs store = .ok src)
    (hopen : openDocument fs path language = .ok d)
    (hsupported : (Settings.load src).1.supports d.language = true) (selections : List Selection) :
    (runScan fs store path language selections).files = fs
      ∧ (runScan fs store path language selections).failure = none
      ∧ (runScan fs store path language selections).output
        = scanText ((Settings.load src).1.classify selections (Settings.wrapColumn src).1
            (d.spans (Settings.load src).1.foldStyle.mode)) := by
  have hresult : ((Session.load src none {}).1.activate ⟨d, selections⟩).1.result
      = some ((Settings.load src).1.classify selections (Settings.wrapColumn src).1
          (d.spans (Settings.load src).1.foldStyle.mode)) := by
    unfold Session.activate
    rw [Session.update_supported hsupported]
    rfl
  unfold runScan openSession printScanned
  rw [hsource]
  simp only [hopen, hresult, and_self]

/-- **A scan lists every span once, in the order of the document.** The rows that are gathered from
the buckets and sorted are the spans as they were found, each with the disposition of its bucket and
of no other one. What is printed is a table of these rows, with both ends counted from one and the
length of the text, and then the number of spans. -/
theorem scan_lists_each_span_once {fs : Files} {env : Environment} {args : List Text}
    {store path : Path}
    {language : Option Text} {selections : List Selection} {src : Source} {d : Document}
    (h : AsksScan env args store path language selections)
    (hsource : FileStore.source fs store = .ok src) (hopen : openDocument fs path language = .ok d)
    (hsupported : (Settings.load src).1.supports d.language = true) (batches : List Batch) :
    let settings := (Settings.load src).1
    let wrapColumn := (Settings.wrapColumn src).1
    let spans := d.spans settings.foldStyle.mode
    let c := settings.classify selections wrapColumn spans
    let disposition := settings.dispose selections (settings.lengthCap wrapColumn)
    (run fs env batches args).failure = none ∧ (run fs env batches args).files = fs ∧
      scanRows c = spans.map (fun s => (s, disposition s)) ∧
      (∀ s ∈ spans, ∀ x, s ∈ c.bucket x ↔ disposition s = x) ∧
      (run fs env batches args).output
        = linesText (Terminal.table lineWidth ["disposition", "start", "end", "length", "text"]
            (spans.map fun s => [dispositionWord (disposition s),
              Text.ofInt (s.range.start.line + 1) ++ [':'] ++ Text.ofInt (s.range.start.character + 1),
              Text.ofInt (s.range.stop.line + 1) ++ [':'] ++ Text.ofInt (s.range.stop.character + 1),
              Text.ofNat s.text.length, Drawing.clean (ClassList.truncate s.text listedWidth)]))
          ++ markupLine ("(" ++ Text.ofNat spans.length ++ " spans)") := by
  intro settings wrapColumn spans c disposition
  obtain ⟨hfiles, hfailure, houtput⟩ := run_of_asksScan h fs batches
  obtain ⟨hsame, hnone, hprinted⟩ := runScan_of_supported hsource hopen hsupported selections
  have hrows : scanRows c = spans.map fun s => (s, disposition s) :=
    scanRows_classify settings selections wrapColumn spans (d.pairwise_start_spans _)
  refine ⟨hfailure.trans hnone, hfiles.trans hsame, hrows, fun s hs x => ?_, ?_⟩
  · rw [settings.mem_bucket_classify_iff selections wrapColumn spans x s]
    exact and_iff_right hs
  · rw [houtput, hprinted, scanText]
    show linesText (Terminal.table lineWidth _ ((scanRows c).map scanCells))
      ++ markupLine ("(" ++ Text.ofNat (scanRows c).length ++ " spans)") = _
    rw [hrows, List.map_map, List.length_map]
    rfl

/-- The second span is left as it is for a selection, so it is gathered before the first one, which
is folded. -/
theorem scan_lists_each_span_once_selected :
    let store : Path := "s.json"
    let path : Path := "a.html"
    let page : Text := "<a class='p q'>\n<b class='r s'>"
    let members : Json.Object := [(Setting.autoFold.key, .bool true),
      (Setting.supportedLanguages.key, .arr [.str "html"])]
    let fs : Files := { items := [(["s.json"], .file (Text.encode (FileStore.fileText members))),
      (["a.html"], .file (Text.encode page))] }
    let env : Environment := ⟨"/home", none⟩
    let args : List Text := ["--settings", "s.json", "scan", "a.html", "--select", "2:5"]
    let selections : List Selection := [.cursor ⟨1, 4⟩]
    AsksScan env args store path none selections ∧ FileStore.source fs store = .ok (.ofObject members) ∧
      openDocument fs path none = .ok ⟨page, "html"⟩ ∧
      (Settings.load (.ofObject members)).1.supports "html" = true ∧
      (run fs env [] args).output
        = linesText (Terminal.table lineWidth ["disposition", "start", "end", "length", "text"]
            [["folded", "1:4", "1:15", "11", "class='p q'"],
              ["unfolded", "2:4", "2:15", "11", "class='r s'"]])
          ++ "(2 spans)\n".toList := by
  intro store path page members fs env args selections
  have hasks : AsksScan env args store path none selections :=
    ⟨⟨some "s.json", false, .scan "a.html" none ["2:5"]⟩, "a.html", ["2:5"], by decide +kernel, rfl,
      by decide +kernel, by decide +kernel, by decide +kernel⟩
  have hkeys : (Json.obj members).Distinct :=
    .obj (by decide) (List.forall_mem_cons.mpr
      ⟨.bool _, List.forall_mem_singleton.mpr (.arr (List.forall_mem_singleton.mpr (.str _)))⟩)
  have hfree : (Json.obj members).FloatFree :=
    .obj (List.forall_mem_cons.mpr
      ⟨.bool _, List.forall_mem_singleton.mpr (.arr (List.forall_mem_singleton.mpr (.str _)))⟩)
  have hsorted : Json.sortedObject members = members :=
    List.mergeSort_of_pairwise (List.pairwise_pair.mpr (by decide +kernel))
  have hsource : FileStore.source fs store = .ok (.ofObject members) := by
    have hread : FileStore.readAll fs store = .ok (Json.sortedObject members, []) :=
      FileStore.readAll_of_fileText hkeys hfree rfl
    rw [hsorted] at hread
    exact FileStore.source_of_readAll hread
  have hpage : fs.readText path = .ok page := Files.readText_of_encode rfl (by decide +kernel)
  have hopen : openDocument fs path none = .ok ⟨page, "html"⟩ := by
    have hlanguage : Language.resolve none (some path) = .ok .html := by decide +kernel
    have hpath : Path.ofText path.text = path := by decide +kernel
    rw [openDocument, hlanguage]
    simp only [Document.openFile, hpath, hpage]
    rfl
  have hsupported : (Settings.load (.ofObject members)).1.supports "html" = true := by decide +kernel
  obtain ⟨-, -, -, -, houtput⟩ := scan_lists_each_span_once hasks hsource hopen hsupported []
  refine ⟨hasks, hsource, hopen, hsupported, ?_⟩
  -- what is found and how it is shown
  let first : Span := ⟨⟨⟨0, 3⟩, ⟨0, 14⟩, by decide⟩, "class='p q'", .quotedContent⟩
  let second : Span := ⟨⟨⟨1, 3⟩, ⟨1, 14⟩, by decide⟩, "class='r s'", .quotedContent⟩
  have hspans : Document.spans ⟨page, "html"⟩ (Settings.load (.ofObject members)).1.foldStyle.mode
      = [first, second] := by decide +kernel
  have hfirst : (Settings.load (.ofObject members)).1.dispose selections
      ((Settings.load (.ofObject members)).1.lengthCap
        (Settings.wrapColumn (.ofObject members)).1) first
      = .folded := by decide +kernel
  have hsecond : (Settings.load (.ofObject members)).1.dispose selections
      ((Settings.load (.ofObject members)).1.lengthCap
        (Settings.wrapColumn (.ofObject members)).1) second
      = .unfolded := by decide +kernel
  have hcount : markupLine ("(" ++ Text.ofNat 2 ++ " spans)") = "(2 spans)\n".toList := by
    decide +kernel
  rw [houtput, hspans, List.map_cons, List.map_cons, List.map_nil, hfirst, hsecond, ← hcount]
  congr 3
  decide +kernel

end Cli

end AttrFold
