import KeyedIndex.Proofs.Number.Integer
import KeyedIndex.Proofs.Number.Numeral
import KeyedIndex.Proofs.Settings.Load

/-!
Where an index lies if a variable or a file says so. The text of a variable is read as a truth value
or a number before it becomes a path again, and so it is the path only if it is written as such a
value is; a text in a file is the path as it stands there (`Settings.load_indexPath`).
-/
namespace KeyedIndex

open Config (valueOf? variableText? layer Kept)

variable {text : String} {environment : List (String × String)} {settings : Settings}

/-- Whether the text of a variable is written as the value is that it is read as: a truth value in
    small letters, an integer without plus sign and leading zeros, a floating point number with the
    fewest digits, or none of these. -/
structure IsFaithful (text : String) : Prop where
  truth : Text.lower text ∈ ["true", "false"] → text ∈ ["true", "false"]
  integer : ∀ number, Number.int64.read? text = some number → Number.decimal number = text
  float : ∀ number, Number.int64.read? text = none → Number.readFloat? text = some number →
    Number.plain number = text

/-! ### Texts of variables -/

theorem truth_not_read : ∀ text ∈ ["true", "false"],
    Number.int64.read? text = none ∧ Number.readFloat? text = none := by
  decide +kernel

theorem Config.Value.ofVariable_of_untrue (untrue : Text.lower text ∉ ["true", "false"]) :
    Config.Value.ofVariable text =
      match Number.int64.read? text with
      | some number => .integer number
      | none =>
        match Number.readFloat? text with
        | some number => .float number
        | none => .text text := by
  unfold Config.Value.ofVariable
  split
  · rename_i isTrue
    exact absurd (by simp [isTrue]) untrue
  · rename_i isFalse
    exact absurd (by simp [isFalse]) untrue
  · rfl

theorem Config.Value.ofVariable_of_truth (truth : Text.lower text ∈ ["true", "false"]) :
    (Config.Value.ofVariable text).text? = some (Text.lower text) := by
  unfold Config.Value.ofVariable
  split
  · rename_i isTrue
    rw [isTrue]
    rfl
  · rename_i isFalse
    rw [isFalse]
    rfl
  · rename_i notTrue notFalse
    exact absurd truth (by simpa using ⟨notTrue, notFalse⟩)

/-- The text of a variable becomes itself again if and only if it is faithful. -/
theorem text?_ofVariable_iff :
    (Config.Value.ofVariable text).text? = some text ↔ IsFaithful text := by
  by_cases truth : Text.lower text ∈ ["true", "false"]
  · rw [Config.Value.ofVariable_of_truth truth, Option.some_inj]
    constructor
    · intro same
      -- The text is one of the two words, neither of which is a number.
      rw [same] at truth
      obtain ⟨noInteger, noFloat⟩ := truth_not_read text truth
      refine ⟨fun _ => truth, fun number read => ?_, fun number _ read => ?_⟩
      · rw [noInteger] at read
        contradiction
      · rw [noFloat] at read
        contradiction
    · intro faithful
      have small : ∀ text ∈ ["true", "false"], Text.lower text = text := by decide
      exact small text (faithful.truth truth)
  · rw [Config.Value.ofVariable_of_untrue truth]
    constructor
    · intro same
      refine ⟨fun isTruth => absurd isTruth truth, fun number read => ?_,
        fun number noInteger read => ?_⟩
      · rw [read] at same
        exact Option.some.inj same
      · rw [noInteger, read] at same
        exact Option.some.inj same
    · intro faithful
      split
      · rename_i number read
        rw [Config.Value.text?, faithful.integer number read]
      · rename_i noInteger
        split
        · rename_i number read
          rw [Config.Value.text?, faithful.float number noInteger read]
        · rfl

/-- A text with a character that is not one of a number, such as a slash, is faithful. -/
theorem IsFaithful.of_mem {char : Char} (member : char ∈ text.toList) (small : Text.Small char)
    (foreign : ¬ Number.isNumeral char) : IsFaithful text := by
  refine ⟨fun truth => ?_, fun number read => ?_, fun number _ read => ?_⟩
  · have letters : ∀ word ∈ ["true", "false"], word.toList.all Number.isNumeral := by decide
    have numeral := List.all_eq_true.mp (letters _ truth)
    exact absurd (numeral char (Text.mem_lower_of_small small member)) foreign
  · exact absurd (Number.isNumeral_of_read? read char member) foreign
  · exact absurd (Number.isNumeral_of_readFloat? read char member) foreign

theorem small_of_isDigit {char : Char} (digit : char.isDigit) : Text.Small char := by
  have digits : ∀ code < 10, Text.Small (Char.ofNat (48 + code)) := by decide
  obtain ⟨lower, upper⟩ : 48 ≤ char.toNat ∧ char.toNat ≤ 57 := by
    simpa [Char.isDigit, UInt32.le_iff_toNat_le] using digit
  have small := digits (char.toNat - 48) (by omega)
  rwa [Nat.add_sub_of_le lower, Char.ofNat_toNat] at small

/-- No text is both a truth value and an integer. -/
theorem untrue_of_read? {number : Int} (read : Number.int64.read? text = some number) :
    Text.lower text ∉ ["true", "false"] := by
  intro truth
  have same : Text.lower text = text := by
    refine Text.lower_eq_self_iff.mpr fun char member => ?_
    rcases Number.isDigit_or_sign_of_read? read char member with digit | rfl | rfl
    · exact small_of_isDigit digit
    · decide
    · decide
  rw [same] at truth
  rw [(truth_not_read text truth).1] at read
  contradiction

/-- The decimal text of an integer of 64 bits is faithful. -/
theorem IsFaithful.decimal {number : Int} (inside : Number.int64.has number) :
    IsFaithful (Number.decimal number) := by
  have read := Number.Interval.read?_decimal inside
  rw [← text?_ofVariable_iff, Config.Value.ofVariable_of_untrue (untrue_of_read? read), read]
  rfl

/-! ### Layers -/

/-- A list and a table are no texts, so that a text that comes out was there before. -/
theorem Config.Kept.text? {before after : Option Config.Value} (kept : Kept before after)
    (found : after.bind Config.Value.text? = some text) :
    before.bind Config.Value.text? = some text := by
  rcases kept with rfl | rfl | ⟨entries, rfl⟩
  · exact found
  · contradiction
  · contradiction

theorem indexPath_isSingle : Config.IsSingle "index_path" := by decide

/-- The last value that an environment gives to the path comes out of any layers below it. -/
theorem Settings.indexPath_of_environment {config : Config.Value}
    (given : variableText? environmentMark "index_path" environment = some text)
    (converts : settings.Converts
      (layer config (Config.ofEnvironment environmentMark environment)).at?) :
    (Config.Value.ofVariable text).text? = some settings.indexPath := by
  -- Another variable can lay something over the path only if its name leads into it, and then the
  -- path becomes a list or a table, which is no setting.
  have last := Config.valueOf?_reverse_ofEnvironment environmentMark "index_path" environment
  rw [given, Option.map_some] at last
  have kept := Config.kept_layer indexPath_isSingle config fun value found => by
    rw [last] at found
    obtain rfl := Option.some.inj found
    exact Config.isTable_ofVariable text
  rw [last] at kept
  exact kept.text? converts.indexPath

/-- A text that the named file gives to the path comes out if no variable lies over it. -/
theorem Settings.indexPath_of_file {config : Config.Value} {table : Config.Table}
    (given : valueOf? "index_path" table.reverse = some (.text text))
    (free : variableText? environmentMark "index_path" environment = none)
    (converts : settings.Converts (layer (layer config table)
      (Config.ofEnvironment environmentMark environment)).at?) :
    settings.indexPath = text := by
  have absent := Config.valueOf?_reverse_ofEnvironment environmentMark "index_path" environment
  rw [free, Option.map_none] at absent
  have below := Config.kept_layer indexPath_isSingle config fun value found => by
    rw [given] at found
    obtain rfl := Option.some.inj found
    rfl
  have kept := Config.kept_layer indexPath_isSingle (layer config table) fun value found => by
    rw [absent] at found
    contradiction
  rw [given] at below
  rw [absent] at kept
  exact (Option.some.inj ((below.trans kept).text? converts.indexPath)).symm

/-- Where an index lies, whatever else the layers hold. The text of a variable is the path if and
    only if it is faithful, for otherwise the path is how the truth value or the number is written
    that the text is read as. So it is if the text has a character that no number has, or is the
    decimal text of an integer. A text in the file that is named is the path as it stands there if
    no variable gives one. -/
theorem Settings.load_indexPath (home text : String) (disk : Disk) (named : Option FilePath)
    (environment : List (String × String)) (settings : Settings)
    (loaded : Settings.load home disk named environment = .ok settings) :
    (variableText? environmentMark "index_path" environment = some text →
      (Config.Value.ofVariable text).text? = some settings.indexPath ∧
      (settings.indexPath = text ↔ IsFaithful text) ∧
      ((∃ char ∈ text.toList, Text.Small char ∧ ¬ Number.isNumeral char) ∨
          (∃ number, Number.int64.has number ∧ Number.decimal number = text) →
        settings.indexPath = text)) ∧
    (variableText? environmentMark "index_path" environment = none →
      ∀ namedTable, namedLayer disk named = .ok namedTable →
        valueOf? "index_path" namedTable.reverse = some (.text text) →
          settings.indexPath = text) := by
  obtain ⟨homeTable, homeRead, table, namedRead, made⟩ := Settings.load_eq_ok.mp loaded
  have converts := (Settings.ofLayers_eq_ok.mp made).1
  constructor
  · intro given
    have path := Settings.indexPath_of_environment given converts
    have faithful : settings.indexPath = text ↔ IsFaithful text := by
      rw [← text?_ofVariable_iff, path, Option.some_inj]
    refine ⟨path, faithful, ?_⟩
    rintro (⟨char, member, small, foreign⟩ | ⟨number, inside, rfl⟩)
    · exact faithful.mpr (.of_mem member small foreign)
    · exact faithful.mpr (.decimal inside)
  · intro free namedTable namedRead' given
    obtain rfl := Except.ok.inj (namedRead.symm.trans namedRead')
    exact Settings.indexPath_of_file given free converts

/-- A path of two numbers with a slash between them stays what it is, and so does a number in a file
    that is named. -/
theorem Settings.load_indexPath_kept :
    let disk : Disk := .folder [("x.json", .file (.text "\x7b\"INDEX_PATH\": \"0.10\"\x7d"))]
    let given := [("ENTITY_INDEX_INDEX_PATH", "7"), ("entity_index_Index_Path", "007/0.10")]
    ∃ fromVariable fromFile : Settings,
      Settings.load "/h" disk (some ["x.json"]) given = .ok fromVariable ∧
      fromVariable.indexPath = "007/0.10" ∧
      Settings.load "/h" disk (some ["x.json"]) [] = .ok fromFile ∧
      fromFile.indexPath = "0.10" := by
  intro disk given
  have variableLoaded : Settings.load "/h" disk (some ["x.json"]) given =
      .ok ⟨"007/0.10", false, 50, 64, .onCommit⟩ := toOption_eq_some.mp (by decide +kernel)
  have fileLoaded : Settings.load "/h" disk (some ["x.json"]) [] =
      .ok ⟨"0.10", false, 50, 64, .onCommit⟩ := toOption_eq_some.mp (by decide +kernel)
  refine ⟨_, _, variableLoaded, ?_, fileLoaded, ?_⟩
  · have path := (Settings.load_indexPath "/h" "007/0.10" disk _ given _ variableLoaded).1
      (by decide +kernel)
    exact path.2.2 (.inl ⟨'/', by decide, by decide, by decide⟩)
  · obtain ⟨table, read⟩ : ∃ table, namedLayer disk (some ["x.json"]) = .ok table :=
      fault?_eq_none.mp (by decide +kernel)
    have quoted : ((namedLayer disk (some ["x.json"])).toOption.bind fun table =>
        (valueOf? "index_path" table.reverse).filter
          fun | .text content => content = "0.10" | _ => false).isSome := by decide +kernel
    have path := (Settings.load_indexPath "/h" "0.10" disk _ [] _ fileLoaded).2 rfl table read
    refine path ?_
    obtain ⟨value, found⟩ := Option.isSome_iff_exists.mp quoted
    rw [read] at found
    obtain ⟨given, isText⟩ := Option.filter_eq_some_iff.mp found
    rw [given]
    split at isText
    · rw [of_decide_eq_true isText]
    · contradiction

/-- A number in a variable loses its last zero on the way to the path, while it is the path as it
    stands in a file. -/
theorem Settings.load_indexPath_rewritten :
    let disk : Disk := .folder [("x.json", .file (.text "\x7b\"index_path\": \"0.10\"\x7d"))]
    let given := [("ENTITY_INDEX_INDEX_PATH", "0.10")]
    variableText? environmentMark "index_path" given = some "0.10" ∧
    Settings.load "/h" .empty none given = .ok ⟨"0.1", false, 50, 64, .onCommit⟩ ∧
    Settings.load "/h" disk (some ["x.json"]) [] = .ok ⟨"0.10", false, 50, 64, .onCommit⟩ := by
  intro disk given
  refine ⟨by decide +kernel, ?_, ?_⟩
  · exact toOption_eq_some.mp (by decide +kernel)
  · exact toOption_eq_some.mp (by decide +kernel)

end KeyedIndex
