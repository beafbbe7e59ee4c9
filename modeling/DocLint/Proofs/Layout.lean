import DocLint.Proofs.Positions

/-!
# Documents that are laid out

A list of sites gives each block the line it starts on. `LaidOut` says that the sites describe a
document: the blocks follow one another, only blank lines stand between them, and the first line of
each reads as its anchor. The forward scan then finds every block on its own line, whatever other
lines hold the same words: the hint of each search is the line behind the block found before.
-/

namespace DocLint

/-! ## Searches -/

/-- Where the search after this one starts. -/
def Placed.next (x : LineIndex) (p : Placed) : Nat :=
  match p.found with
  | some start => lastLine x start p.block + 1
  | none => p.hint

theorem Layout.placeFrom_forward_cons (x : LineIndex) (hint : Nat) (b : Block) (bs : List Block) :
    placeFrom (Locator.forward x) x () hint (b :: bs) =
      ⟨b, hint, Locator.scan x b.anchor hint⟩ ::
        placeFrom (Locator.forward x) x ()
          (Placed.next x ⟨b, hint, Locator.scan x b.anchor hint⟩) bs := rfl

theorem Rules.check_of_content {x : LineIndex} (hdoc : x.isBlankDocument = false) (l : Locator σ)
    (state : σ) (exempt : Text → Bool) (file : Text) (bs : List Block) :
    check l state exempt file x bs =
      ⟨Layout.place l state x bs, ofBlocks x exempt file true (Layout.place l state x bs)⟩ := by
  rw [check, hdoc]
  rfl

/-! ## Sites -/

/-- A block with the line it starts on. -/
structure Site where
  block : Block
  start : Nat
  deriving DecidableEq, Repr

namespace Site

def last (p : Site) : Nat :=
  p.start + p.block.span - 1

def next (p : Site) : Nat :=
  p.start + p.block.span

/-- The search from `hint` on that finds the block on its line. -/
def foundFrom (p : Site) (hint : Nat) : Placed :=
  ⟨p.block, hint, some p.start⟩

/-- A site that a document has behind line `hint`. -/
structure LiesIn (x : LineIndex) (hint : Nat) (p : Site) : Prop where
  hint_le : hint ≤ p.start
  /-- Nothing but blank lines stands in front of the block. -/
  gap : ∀ i < p.start, hint ≤ i → x.isBlank i = true
  content : x.isBlank p.start = false
  /-- The first line of the block is its anchor, up to the white space around. -/
  anchored : (x.line? p.start).map Text.trim = some (Text.trim p.block.anchor)
  span_pos : 0 < p.block.span
  fits : p.next ≤ x.count

instance (x : LineIndex) (hint : Nat) (p : Site) : Decidable (p.LiesIn x hint) :=
  decidable_of_iff
    (hint ≤ p.start ∧ (∀ i < p.start, hint ≤ i → x.isBlank i = true) ∧
      x.isBlank p.start = false ∧
      (x.line? p.start).map Text.trim = some (Text.trim p.block.anchor) ∧
      0 < p.block.span ∧ p.next ≤ x.count)
    ⟨fun ⟨h₁, h₂, h₃, h₄, h₅, h₆⟩ => ⟨h₁, h₂, h₃, h₄, h₅, h₆⟩,
      fun ⟨h₁, h₂, h₃, h₄, h₅, h₆⟩ => ⟨h₁, h₂, h₃, h₄, h₅, h₆⟩⟩

namespace LiesIn

variable {x : LineIndex} {hint : Nat} {p : Site}

theorem showsAt (h : p.LiesIn x hint) : Locator.showsAt x p.block.anchor p.start = true := by
  obtain ⟨l, hl, htrim⟩ := Option.map_eq_some_iff.mp h.anchored
  have hcontent := h.content
  rw [LineIndex.isBlank_eq_of_line? hl] at hcontent
  rw [Locator.showsAt_of_line? hl]
  exact Locator.shows_of_trim_eq hcontent htrim.symm

theorem scan_eq (h : p.LiesIn x hint) : Locator.scan x p.block.anchor hint = some p.start :=
  Locator.scan_eq_of_blank_before h.hint_le (fun i hi hlt => h.gap i hlt hi) h.showsAt

/-- What is in front of a block is numbered by machine words. -/
theorem hint_le_wordSize (h : p.LiesIn x hint) : hint ≤ x.wordSize := by
  have hle := h.hint_le
  have hlt := LineIndex.succ_lt_wordSize h.content
  omega

theorem lastLine_eq (h : p.LiesIn x hint) (hword : p.next ≤ x.wordSize) :
    Placed.lastLine x p.start p.block = p.last := by
  have hfits := h.fits
  rw [next] at hfits
  rw [Placed.lastLine, Placed.reach_of_le h.span_pos hword, last]
  omega

theorem last_add_one (h : p.LiesIn x hint) : p.last + 1 = p.next := by
  have hspan := h.span_pos
  rw [last, next]
  omega

theorem next_foundFrom (h : p.LiesIn x hint) (hword : p.next ≤ x.wordSize) :
    (p.foundFrom hint).next x = p.next := by
  rw [← h.last_add_one, ← h.lastLine_eq hword]
  rfl

end LiesIn

end Site

/-! ## Layouts -/

/-- The sites of a document in order, from line `hint` on. -/
def LaidOut (x : LineIndex) : (hint : Nat) → List Site → Prop
  | _, [] => True
  | hint, p :: ps => p.LiesIn x hint ∧ LaidOut x p.next ps

instance decidableLaidOut (x : LineIndex) :
    (hint : Nat) → (ps : List Site) → Decidable (LaidOut x hint ps)
  | _, [] => isTrue trivial
  | hint, p :: ps =>
    have := decidableLaidOut x p.next ps
    inferInstanceAs (Decidable (p.LiesIn x hint ∧ LaidOut x p.next ps))

theorem Layout.placeFrom_of_laidOut {x : LineIndex} {hint : Nat} {sites : List Site}
    (h : LaidOut x hint sites) :
    placeFrom (Locator.forward x) x () hint (sites.map Site.block) =
      List.zipWith Site.foundFrom sites (hint :: sites.map Site.next) := by
  -- The hint of the induction is the line behind the last site, where the next search starts.
  induction sites generalizing hint with
  | nil => rfl
  | cons p ps ih =>
    obtain ⟨hp, hps⟩ := h
    have hfound : (⟨p.block, hint, Locator.scan x p.block.anchor hint⟩ : Placed) =
        p.foundFrom hint := by
      rw [hp.scan_eq, Site.foundFrom]
    rw [List.map_cons, placeFrom_forward_cons, hfound]
    cases ps with
    | nil => rfl
    | cons q qs =>
      -- The next site has content, so the line behind this one has a position.
      rw [hp.next_foundFrom hps.1.hint_le_wordSize, ih hps]
      rfl

/-- The blocks of a laid out document are searched one after another, each from the line behind
the block before it, and each is found on its own line. -/
theorem Rules.searches_eq_of_laidOut (t file : Text) (exempt : Text → Bool) (sites : List Site)
    (hdoc : (LineIndex.ofText t).isBlankDocument = false)
    (hlay : LaidOut (LineIndex.ofText t) 0 sites) :
    (check (Locator.forward (LineIndex.ofText t)) () exempt file (LineIndex.ofText t)
        (sites.map Site.block)).searches =
      List.zipWith Site.foundFrom sites (0 :: sites.map Site.next) := by
  rw [check_of_content hdoc]
  exact Layout.placeFrom_of_laidOut hlay

/-- A document that repeats its words: a heading, a paragraph that quotes it, the heading again, a
heading without words, and a list item. -/
def setupText : Text :=
  "# Setup\n\nSee Setup\n\t\n## Setup  \n#\n- Setup\n".toList

def setupSites : List Site :=
  [⟨⟨.header 1 "Setup".toList false, "# Setup".toList, 1⟩, 0⟩,
    ⟨⟨.paragraph "See Setup".toList, "See Setup".toList, 1⟩, 2⟩,
    ⟨⟨.header 2 "Setup".toList false, "## Setup".toList, 1⟩, 4⟩,
    ⟨⟨.header 1 [] false, "#".toList, 1⟩, 5⟩,
    ⟨⟨.list false [⟨"Setup".toList, false⟩], "- Setup".toList, 1⟩, 6⟩]

theorem Rules.searches_setupText :
    (LineIndex.ofText setupText).isBlankDocument = false ∧
      LaidOut (LineIndex.ofText setupText) 0 setupSites ∧
      (check (Locator.forward (LineIndex.ofText setupText)) () (fun _ => false) []
          (LineIndex.ofText setupText) (setupSites.map Site.block)).searches.map
        (fun p => (p.hint, p.found)) =
        [(0, some 0), (1, some 2), (3, some 4), (5, some 5), (6, some 6)] := by
  have hdoc : (LineIndex.ofText setupText).isBlankDocument = false := by decide
  have hlay : LaidOut (LineIndex.ofText setupText) 0 setupSites := by decide
  refine ⟨hdoc, hlay, ?_⟩
  rw [searches_eq_of_laidOut setupText [] (fun _ => false) setupSites hdoc hlay]
  rfl

end DocLint
