import ComponentPages.Project.Path

namespace ComponentPages

/-!
# File names

The file name of a path is the last of its pieces that counts. It is the name behind a directory,
and giving a path another extension changes the file name as it should.
-/

namespace Text

variable {separates : Char → Bool}

/-! ## Pieces -/

/-- A text is cut at separators as the library cuts it. -/
theorem pieces_eq_splitOnP
    (separates : Char → Bool)
    (text : Text) :
    pieces separates text = text.splitOnP separates := by
  induction text with
  | nil =>
      rfl
  | cons character rest inductionHypothesis =>
      rw [pieces, List.splitOnP_cons_eq_if_modifyHead, inductionHypothesis]
      by_cases isSeparator : separates character = true
      · simp [isSeparator]
      · simp only [isSeparator, Bool.false_eq_true, ↓reduceIte]
        cases isSplit : rest.splitOnP separates with
        | nil =>
            exact absurd isSplit (List.splitOnP_ne_nil separates rest)
        | cons piece later =>
            rfl

/-- There is no separator inside a piece. -/
theorem separates_of_mem_pieces
    {text piece : Text}
    (isPiece : piece ∈ pieces separates text) :
    ∀ character ∈ piece, separates character = false := by
  fun_induction pieces separates text generalizing piece with
  | case1 =>
      simp_all
  | case2 character rest isSeparator inductionHypothesis =>
      rcases List.mem_cons.mp isPiece with rfl | isLater
      · simp
      · exact inductionHypothesis isLater
  | case3 character rest noSeparator noPieces inductionHypothesis =>
      simp_all
  | case4 character rest noSeparator first later isFirst inductionHypothesis =>
      rw [isFirst] at inductionHypothesis
      rcases List.mem_cons.mp isPiece with rfl | isLater
      · have ofFirst := inductionHypothesis List.mem_cons_self
        simpa [noSeparator] using ofFirst
      · exact inductionHypothesis (List.mem_cons_of_mem first isLater)

/-- A text behind a separator is the last piece if there is no separator in it. -/
theorem pieces_concat
    {separator : Char}
    {last : Text}
    (isSeparator : separates separator = true)
    (noSeparator : ∀ character ∈ last, separates character = false)
    (front : Text) :
    pieces separates (front ++ separator :: last) = pieces separates front ++ [last] := by
  rw [pieces_eq_splitOnP, pieces_eq_splitOnP, List.splitOnP_append_cons front last isSeparator,
    List.splitOnP_eq_singleton noSeparator]

end Text

namespace Path

/-! ## File names -/

private theorem isSeparator_of_mem
    {text : Text}
    (isWhole : '/' ∉ text) :
    ∀ character ∈ text, isSeparator character = false := by
  intro character member
  have different : character ≠ '/' := by
    rintro rfl
    exact isWhole member
  simpa [isSeparator] using different

/-- The pieces of a path that count as components. -/
def countedPieces (path : Path) : List Text :=
  (Text.pieces isSeparator path.text).filter counts

/-- The file name is the last piece that counts, if it is no double dot. -/
theorem fileName?_eq_some
    {path : Path}
    {name : Text} :
    path.fileName? = some name ↔
      path.countedPieces.getLast? = some name ∧ name ≠ ['.', '.'] := by
  unfold fileName? components
  rw [← countedPieces]
  rcases List.eq_nil_or_concat path.countedPieces with isEmpty | ⟨earlier, last, isConcat⟩
  · -- The component in front is the root or a dot, and so no name.
    rw [isEmpty]
    unfold lead
    split
    · simp [Component.name?]
    · split <;> simp [Component.name?]
  · rw [isConcat, List.concat_eq_append]
    by_cases isUp : last = ['.', '.']
    · have noName : ['.', '.'] = name → name = ['.', '.'] := Eq.symm
      simpa [ofPiece, Component.name?, isUp] using noName
    · simp only [List.map_append, List.map_cons, List.map_nil, ofPiece, isUp, ↓reduceIte,
        ← List.append_assoc, List.getLast?_concat, Option.bind_some, Component.name?,
        Option.some.injEq]
      constructor
      · rintro rfl
        exact ⟨rfl, isUp⟩
      · exact And.left

/-- A file name counts, is no double dot and has no separator in it. -/
theorem isName_of_fileName?
    {path : Path}
    {name : Text}
    (named : path.fileName? = some name) :
    counts name = true ∧ name ≠ ['.', '.'] ∧ '/' ∉ name := by
  obtain ⟨isLast, noDots⟩ := fileName?_eq_some.mp named
  obtain ⟨isPiece, isCounted⟩ := List.mem_filter.mp (List.mem_of_getLast? isLast)
  refine ⟨isCounted, noDots, ?_⟩
  intro member
  have noSeparator := Text.separates_of_mem_pieces isPiece '/' member
  contradiction

/-- A name without a separator is no absolute path. -/
theorem isAbsolute_of_isWhole
    {name : Text}
    (isWhole : '/' ∉ name) :
    isAbsolute ⟨name⟩ = false := by
  cases name with
  | nil =>
      rfl
  | cons first rest =>
      have different : first ≠ '/' := by
        rintro rfl
        exact isWhole List.mem_cons_self
      simpa [isAbsolute] using different

/-- A name behind a directory starts where the directory does. -/
theorem isAbsolute_file
    {name : Text}
    (isWhole : '/' ∉ name)
    (directory : Path) :
    (directory.file name).isAbsolute = directory.isAbsolute := by
  have notAbsolute := isAbsolute_of_isWhole isWhole
  unfold file join
  rw [notAbsolute, Bool.false_or]
  split
  · rename_i isEmpty
    rw [notAbsolute, isAbsolute, List.isEmpty_iff.mp isEmpty]
    rfl
  · rename_i notEmpty
    obtain ⟨first, rest, isText⟩ := List.exists_cons_of_ne_nil (mt List.isEmpty_iff.mpr notEmpty)
    split <;> simp [isAbsolute, isText]

/-- The pieces of a name behind a directory, where an empty piece may end those of the directory. -/
theorem exists_pieces_file
    {name : Text}
    (isWhole : '/' ∉ name)
    (directory : Path) :
    ∃ earlier,
      Text.pieces isSeparator (directory.file name).text = earlier ++ [name] ∧
        (Text.pieces isSeparator directory.text = earlier ∨
          Text.pieces isSeparator directory.text = earlier ++ [[]]) := by
  have noSeparator := isSeparator_of_mem isWhole
  unfold file join
  rw [isAbsolute_of_isWhole isWhole, Bool.false_or]
  split
  · rename_i isEmpty
    refine ⟨[], ?_, .inr ?_⟩
    · rw [Text.pieces_eq_splitOnP, List.splitOnP_eq_singleton noSeparator, List.nil_append]
    · rw [List.isEmpty_iff.mp isEmpty]
      rfl
  · split
    · rename_i isSlashed
      obtain ⟨front, isFront⟩ := List.getLast?_eq_some_iff.mp (eq_of_beq isSlashed)
      refine ⟨Text.pieces isSeparator front, ?_, .inr ?_⟩
      · rw [isFront, List.append_assoc, List.singleton_append, Text.pieces_concat rfl noSeparator]
      · rw [isFront, Text.pieces_concat rfl (by simp)]
    · exact ⟨_, Text.pieces_concat rfl noSeparator directory.text, .inl rfl⟩

/-- A name behind a directory is the last piece that counts, if it counts. -/
theorem countedPieces_file_eq
    {name : Text}
    (isWhole : '/' ∉ name)
    (directory : Path) :
    (directory.file name).countedPieces = directory.countedPieces ++ [name].filter counts := by
  have blankUncounted : counts [] = false := rfl
  obtain ⟨earlier, isFile, isDirectory | isDirectory⟩ := exists_pieces_file isWhole directory
  · rw [countedPieces, countedPieces, isFile, isDirectory, List.filter_append]
  · rw [countedPieces, countedPieces, isFile, isDirectory, List.filter_append, List.filter_append]
    simp [blankUncounted]

/-- A name behind a directory is the last piece that counts. -/
theorem countedPieces_file
    {name : Text}
    (isCounted : counts name = true)
    (isWhole : '/' ∉ name)
    (directory : Path) :
    (directory.file name).countedPieces = directory.countedPieces ++ [name] := by
  rw [countedPieces_file_eq isWhole, List.filter_cons_of_pos isCounted, List.filter_nil]

/-- The file name of a file in a directory is its name. -/
theorem fileName?_file
    {name : Text}
    (isCounted : counts name = true)
    (noDots : name ≠ ['.', '.'])
    (isWhole : '/' ∉ name)
    (directory : Path) :
    (directory.file name).fileName? = some name := by
  refine fileName?_eq_some.mpr ⟨?_, noDots⟩
  rw [countedPieces_file isCounted isWhole, List.getLast?_concat]

/-! ## Extensions -/

/-- A name is its stem alone, or its stem and an extension in which there is no dot. -/
theorem stem_eq_or_append (name : Text) :
    (splitExtension name).1 = name ∨
      ∃ extension, '.' ∉ extension ∧ name = (splitExtension name).1 ++ '.' :: extension := by
  unfold splitExtension
  dsimp only
  split
  · rename_i dot first rest isBroken
    refine .inr ⟨(name.reverse.takeWhile (· != '.')).reverse, ?_, ?_⟩
    · intro member
      have noDots := List.all_eq_true.mp (List.all_takeWhile (p := (· != '.')) (l := name.reverse))
      simpa using noDots _ (List.mem_reverse.mp member)
    · have isDot : dot = '.' := by
        have stops := List.head?_dropWhile_not (· != '.') name.reverse
        rw [isBroken] at stops
        simpa using stops
      have whole := List.takeWhile_append_dropWhile (p := (· != '.')) (l := name.reverse)
      rw [isBroken, isDot] at whole
      have reversed := congrArg List.reverse whole
      simpa using reversed.symm
  · exact .inl rfl

/-- An extension with a dot in it makes another name of a name. -/
theorem ne_stem_append
    {extension : Text}
    (isDotted : '.' ∈ extension)
    (name : Text) :
    name ≠ (splitExtension name).1 ++ '.' :: extension := by
  intro same
  rcases stem_eq_or_append name with isStem | ⟨former, noDot, isName⟩
  · have lengths := congrArg List.length same
    rw [isStem, List.length_append, List.length_cons] at lengths
    omega
  · have sameEnd := List.append_cancel_left (isName.symm.trans same)
    rw [(List.cons.inj sameEnd).2] at noDot
    exact noDot isDotted

/-- The stem of a name is not empty. -/
theorem stem_ne_nil
    {name : Text}
    (notEmpty : name ≠ []) :
    (splitExtension name).1 ≠ [] := by
  unfold splitExtension
  dsimp only
  split
  · simp
  · exact notEmpty

/-- A character that a name lacks is not in its stem. -/
theorem not_mem_stem
    {name : Text}
    {character : Char}
    (isLacking : character ∉ name) :
    character ∉ (splitExtension name).1 := by
  intro member
  apply isLacking
  rcases stem_eq_or_append name with isName | ⟨former, -, isName⟩
  · rw [← isName]
    exact member
  · rw [isName]
    exact List.mem_append_left _ member

/-- A path with another extension has the stem of the former file name. -/
theorem fileName?_withExtension
    {path : Path}
    {name extension : Text}
    (named : path.fileName? = some name)
    (notEmpty : extension ≠ [])
    (extensionWhole : '/' ∉ extension) :
    (path.withExtension extension).fileName? =
      some ((splitExtension name).1 ++ '.' :: extension) := by
  obtain ⟨isCounted, -, isWhole⟩ := isName_of_fileName? named
  have nameNotEmpty : name ≠ [] := by
    rintro rfl
    contradiction
  obtain ⟨first, stem, isStem⟩ := List.exists_cons_of_ne_nil (stem_ne_nil nameNotEmpty)
  obtain ⟨next, others, isExtension⟩ := List.exists_cons_of_ne_nil notEmpty
  have stemWhole := not_mem_stem isWhole
  have isExtended : path.withExtension extension =
      (ofComponents path.components.dropLast).file
        ((splitExtension name).1 ++ '.' :: extension) := by
    simp [withExtension, fileStem?, named, notEmpty]
  rw [isExtended]
  -- The new name has a stem, a dot and an extension, so it is neither a dot nor a double dot.
  apply fileName?_file
  · rw [isStem]
    cases stem <;> simp [counts]
  · rw [isStem, isExtension]
    cases stem <;> simp
  · simp [stemWhole, extensionWhole]

end Path

end ComponentPages
