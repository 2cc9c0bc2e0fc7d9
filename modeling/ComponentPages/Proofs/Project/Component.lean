import ComponentPages.Proofs.Project.Path
import ComponentPages.Proofs.Text.Joining

namespace ComponentPages

/-!
# Components of paths

The components of a path tell what it names. A path that is made of the components of another one
has these components again, and a name behind a directory is one component more than those of the
directory, so that the directory is what holds it.
-/

namespace Path

variable {names : List Text} {path : Path} {name : Text}

/-! ## Starts of paths -/

/-- A path whose first piece is not empty is no absolute path. -/
private theorem isAbsolute_of_head?_pieces
    {first : Text}
    (isFirst : (Text.pieces isSeparator path.text).head? = some first)
    (notEmpty : first ≠ []) :
    path.isAbsolute = false := by
  rcases isText : path.text with _ | ⟨character, rest⟩
  · simp [isAbsolute, isText]
  · have noSeparator : character ≠ '/' := by
      rintro rfl
      have isEmpty : [] = first := by
        simpa [isText, Text.pieces, isSeparator] using isFirst
      exact notEmpty isEmpty.symm
    simpa [isAbsolute, isText] using noSeparator

private theorem lead_of_head?_pieces
    {first : Text}
    (isFirst : (Text.pieces isSeparator path.text).head? = some first)
    (isCounted : counts first = true) :
    path.lead = [] := by
  rw [counts, Bool.and_eq_true, bne_iff_ne, bne_iff_ne] at isCounted
  obtain ⟨notEmpty, noDot⟩ := isCounted
  simp [lead, isAbsolute_of_head?_pieces isFirst notEmpty, isFirst, noDot]

private theorem ofComponents_of_head?_ne_root
    {components : List Component}
    (isRelative : components.head? ≠ some .root) :
    ofComponents components = ⟨Text.joinWith ['/'] (components.map (·.text))⟩ := by
  unfold ofComponents
  split
  · exact absurd rfl isRelative
  · rfl

/-! ## Paths of components -/

/-- Texts that are joined by separators are the pieces of the joined text. -/
theorem pieces_joinWith
    (notEmpty : names ≠ [])
    (areWhole : ∀ name ∈ names, '/' ∉ name) :
    Text.pieces isSeparator (Text.joinWith ['/'] names) = names :=
  Text.pieces_joinWith notEmpty areWhole

private theorem Component.text_ofPiece (piece : Text) : (ofPiece piece).text = piece := by
  unfold ofPiece
  split
  · rename_i isUp
    exact isUp.symm
  · rfl

private theorem map_text_ofPiece (names : List Text) :
    (names.map ofPiece).map (·.text) = names := by
  rw [List.map_map]
  exact List.map_id'' Component.text_ofPiece names

private theorem ofPiece_ne_root (piece : Text) : ofPiece piece ≠ .root := by
  unfold ofPiece
  split <;> nofun

/-- Whether names can be the pieces of a path that count. -/
def AreCounted (names : List Text) : Prop :=
  ∀ name ∈ names, counts name = true ∧ '/' ∉ name

private theorem areCounted_countedPieces (path : Path) : AreCounted path.countedPieces := by
  intro piece isPiece
  obtain ⟨isInside, isCounted⟩ := List.mem_filter.mp isPiece
  refine ⟨isCounted, fun member => ?_⟩
  exact absurd (Text.separates_of_mem_pieces isInside '/' member) (by decide)

namespace AreCounted

variable (areCounted : AreCounted names)

include areCounted

private theorem filter_counts : names.filter counts = names :=
  List.filter_eq_self.mpr fun name member => (areCounted name member).1

/-- Behind a separator, names are the components of an absolute path. -/
private theorem components_absolute :
    (⟨'/' :: Text.joinWith ['/'] names⟩ : Path).components = .root :: names.map ofPiece := by
  have isLead : (⟨'/' :: Text.joinWith ['/'] names⟩ : Path).lead = [.root] := rfl
  have blankUncounted : counts [] = false := rfl
  rw [components, isLead, Text.pieces, if_pos (by decide)]
  by_cases noNames : names = []
  · rw [noNames]
    rfl
  · rw [pieces_joinWith noNames fun name member => (areCounted name member).2]
    simp [blankUncounted, areCounted.filter_counts]

/-- Behind a dot, names are the components behind that dot. -/
private theorem components_here :
    (⟨Text.joinWith ['/'] (['.'] :: names)⟩ : Path).components = .here :: names.map ofPiece := by
  have areWhole : ∀ piece ∈ ['.'] :: names, '/' ∉ piece :=
    List.forall_mem_cons.mpr ⟨by decide, fun name member => (areCounted name member).2⟩
  have arePieces := pieces_joinWith (List.cons_ne_nil _ _) areWhole
  have isLead : (⟨Text.joinWith ['/'] (['.'] :: names)⟩ : Path).lead = [.here] := by
    have isFirst := congrArg List.head? arePieces
    rw [lead, isAbsolute_of_head?_pieces isFirst (by decide), isFirst]
    rfl
  have dotUncounted : counts ['.'] = false := rfl
  rw [components, isLead, arePieces]
  simp [dotUncounted, areCounted.filter_counts]

/-- By themselves, names are the components of a path. -/
private theorem components_relative :
    (⟨Text.joinWith ['/'] names⟩ : Path).components = names.map ofPiece := by
  rcases names with _ | ⟨first, later⟩
  · rfl
  · have arePieces := pieces_joinWith (List.cons_ne_nil first later)
      fun name member => (areCounted name member).2
    have isFirst := congrArg List.head? arePieces
    have isLead := lead_of_head?_pieces isFirst (areCounted first List.mem_cons_self).1
    rw [components, isLead, arePieces, areCounted.filter_counts, List.nil_append]

end AreCounted

/-- The components that the start of a path can give. -/
theorem lead_cases (path : Path) : path.lead = [] ∨ path.lead = [.root] ∨ path.lead = [.here] := by
  unfold lead
  split
  · exact .inr (.inl rfl)
  · split
    · exact .inr (.inr rfl)
    · exact .inl rfl

/-- A path that is made of components of names, behind a start of a path, has these components. -/
theorem AreCounted.components_ofComponents
    {lead : List Component}
    (areCounted : AreCounted names)
    (isLead : lead = [] ∨ lead = [.root] ∨ lead = [.here]) :
    (ofComponents (lead ++ names.map ofPiece)).components = lead ++ names.map ofPiece := by
  have areTexts := map_text_ofPiece names
  rcases isLead with rfl | rfl | rfl
  · rw [List.nil_append, ofComponents_of_head?_ne_root, areTexts, areCounted.components_relative]
    rcases names with _ | ⟨first, later⟩
    · simp
    · simpa using ofPiece_ne_root first
  · dsimp only [List.singleton_append, ofComponents]
    rw [areTexts, areCounted.components_absolute]
  · rw [ofComponents_of_head?_ne_root (by simp), List.singleton_append, List.map_cons, areTexts]
    exact areCounted.components_here

/-- A path that is made of the components of another one has these components. -/
theorem components_ofComponents (path : Path) :
    (ofComponents path.components).components = path.components :=
  (areCounted_countedPieces path).components_ofComponents path.lead_cases

/-- What holds a file has the components in front of it. -/
theorem components_ofComponents_dropLast
    (isFile : path.fileName? = some name) :
    (ofComponents path.components.dropLast).components = path.components.dropLast := by
  obtain ⟨isLast, -⟩ := fileName?_eq_some.mp isFile
  obtain ⟨earlier, isEarlier⟩ := List.getLast?_eq_some_iff.mp isLast
  have areCounted : AreCounted earlier := by
    intro piece member
    refine areCounted_countedPieces path piece ?_
    rw [isEarlier]
    exact List.mem_append_left _ member
  have isDirectory : path.components.dropLast = path.lead ++ earlier.map ofPiece := by
    rw [components, ← countedPieces, isEarlier, List.map_append, ← List.append_assoc,
      List.map_singleton, List.dropLast_concat]
  rw [isDirectory, areCounted.components_ofComponents path.lead_cases]

/-! ## Names behind directories -/

private theorem lead_file
    (isCounted : counts name = true)
    (isWhole : '/' ∉ name)
    (directory : Path) :
    (directory.file name).lead = directory.lead := by
  obtain ⟨earlier, isFile, isDirectory⟩ := exists_pieces_file isWhole directory
  have sameDot : ((earlier ++ [name]).head? == some ['.']) =
      ((Text.pieces isSeparator directory.text).head? == some ['.']) := by
    rcases earlier with _ | ⟨first, later⟩
    · rw [counts, Bool.and_eq_true, bne_iff_ne, bne_iff_ne] at isCounted
      have notNone : Text.pieces isSeparator directory.text ≠ [] := by
        rw [Text.pieces_eq_splitOnP]
        exact List.splitOnP_ne_nil isSeparator directory.text
      rw [isDirectory.resolve_left notNone]
      simpa using isCounted.2
    · rcases isDirectory with isDirectory | isDirectory <;> rw [isDirectory] <;> rfl
  rw [lead, lead, isAbsolute_file isWhole, isFile, sameDot]

/-- A name behind a directory is one component more. -/
theorem components_file
    (isCounted : counts name = true)
    (noDots : name ≠ ['.', '.'])
    (isWhole : '/' ∉ name)
    (directory : Path) :
    (directory.file name).components = directory.components ++ [.name name] := by
  have isLast : ofPiece name = .name name := if_neg noDots
  have isDirectory : directory.components = directory.lead ++ directory.countedPieces.map ofPiece :=
    rfl
  rw [components, lead_file isCounted isWhole, ← countedPieces,
    countedPieces_file isCounted isWhole, List.map_append, List.map_singleton, isLast,
    ← List.append_assoc, isDirectory]

/-- A directory holds the names that stand behind it. -/
theorem exists_parent?_file
    (isCounted : counts name = true)
    (noDots : name ≠ ['.', '.'])
    (isWhole : '/' ∉ name)
    (directory : Path) :
    ∃ parent,
      (directory.file name).parent? = some parent ∧ parent.components = directory.components := by
  refine ⟨ofComponents directory.components, ?_, components_ofComponents directory⟩
  rw [parent?, components_file isCounted noDots isWhole, List.getLast?_concat, List.dropLast_concat]

end Path

end ComponentPages
