import KeyedIndex.Proofs.Schema.Columns
import KeyedIndex.Proofs.Storage.IndexFile
import Mathlib.Data.List.Forall2

/-!
Which indexes a schema opens. Fields are compared in their order by name, by whether they hold
numbers and by whether they are stored (`Schema.checkCompatible_iff`); an index that exists is
opened as it is if all fields match and is left alone if not (`Disk.openIndex_found`). How texts
become terms and which columns can order hits is not compared, so an index is opened exactly if
it has the layout of the schema as long as no two fields differ in that alone
(`Schema.opens_layout`).
-/
namespace KeyedIndex

variable {α β : Type}

/-- What of two fields is compared: their names, and whether they hold numbers and are stored. -/
def Field.Matches (first : Field α) (second : Field β) : Prop :=
  first.name = second.name ∧ first.kind.isNumeric = second.kind.isNumeric ∧
    first.stored = second.stored

/-- Fields of two schemas that match do not differ in what is not compared. -/
def Schema.Discerns (first : Schema α) (second : Schema β) : Prop :=
  ∀ field ∈ first.fields, ∀ other ∈ second.fields, field.Matches other →
    field.kind.columnType = other.kind.columnType ∧ field.sortable = other.sortable

theorem FieldKind.isText_columnType (kind : FieldKind) :
    kind.columnType.isText = !kind.isNumeric := by
  cases kind <;> rfl

theorem Field.matches_iff (first : Field α) (second : Field β) :
    first.Matches second ↔ first.column.outline = second.column.outline := by
  simp [Field.Matches, Column.outline, Field.column, FieldKind.isText_columnType]

theorem Field.column_eq_iff (first : Field α) (second : Field β) :
    first.column = second.column ↔ first.Matches second ∧
      first.kind.columnType = second.kind.columnType ∧ first.sortable = second.sortable := by
  simp only [Field.column, Column.mk.injEq, Field.matches_iff, Column.outline, Prod.mk.injEq]
  constructor
  · rintro ⟨name, type, stored, sortable⟩
    exact ⟨⟨name, by rw [type], stored⟩, type, sortable⟩
  · rintro ⟨⟨name, _, stored⟩, type, sortable⟩
    exact ⟨name, type, stored, sortable⟩

theorem map_eq_map_iff {γ : Type} {image : α → γ} {other : β → γ} {first : List α}
    {second : List β} : first.map image = second.map other ↔
      List.Forall₂ (fun item counterpart => image item = other counterpart) first second := by
  rw [← List.forall₂_eq_eq_eq, List.forall₂_map_left_iff, List.forall₂_map_right_iff]

variable (first : Schema α) (second : Schema β)

/-- The layout of a schema goes with another schema if the fields match one by one. -/
theorem Schema.checkCompatible_iff : first.checkCompatible second.layout = .ok () ↔
    List.Forall₂ Field.Matches first.fields second.fields := by
  have same : Field.Matches = fun (field : Field α) (other : Field β) =>
      (Column.outline ∘ Field.column) field = (Column.outline ∘ Field.column) other := by
    funext field other
    exact propext (field.matches_iff other)
  rw [Schema.checkCompatible, Schema.layout, Schema.layout, List.map_map, List.map_map, same,
    ← map_eq_map_iff]
  split <;> simp_all

theorem Schema.layout_eq_iff : first.layout = second.layout ↔
    List.Forall₂ (fun (field : Field α) (other : Field β) => field.column = other.column)
      first.fields second.fields := map_eq_map_iff

/-- If nothing but the compared sets fields apart, only the layout of the schema goes with it. -/
theorem Schema.Discerns.checkCompatible_iff {first : Schema α} {second : Schema β}
    (discerns : first.Discerns second) :
    first.checkCompatible second.layout = .ok () ↔ first.layout = second.layout := by
  rw [Schema.checkCompatible_iff, Schema.layout_eq_iff, List.forall₂_iff_zip, List.forall₂_iff_zip]
  refine and_congr_right fun _ => ⟨fun matched => ?_, fun equal => ?_⟩
  · intro field other pair
    obtain ⟨fieldIn, otherIn⟩ := List.of_mem_zip pair
    exact (field.column_eq_iff other).mpr
      ⟨matched pair, discerns field fieldIn other otherIn (matched pair)⟩
  · exact fun {field other} pair => ((field.column_eq_iff other).mp (equal pair)).1

theorem Schema.checkCompatible_error {layout : Layout} {fault : MismatchFault}
    (refused : first.checkCompatible layout = .error fault) :
    fault = .layout first.name first.version := by
  unfold Schema.checkCompatible at refused
  split at refused
  · contradiction
  · exact (Except.error.inj refused).symm

variable {disk : Disk} {path directory : FilePath} {commit : Commit}

/-- The layout of a schema goes with another one if and only if their fields match in their order.
    An index with that layout is opened if that is so, and else the layouts are said not to agree;
    the disk stays as it is. If no fields that match differ otherwise, it is opened if and only if
    the layouts are equal in the order of their columns and in every column, and the schema is bound
    to it as to its own layout. -/
theorem Schema.opens_layout (index : disk.HasIndex path directory commit)
    (layout : commit.layout = second.layout) :
    (first.checkCompatible second.layout = .ok () ↔
      List.Forall₂ Field.Matches first.fields second.fields) ∧
    (first.checkCompatible second.layout = .ok () →
      disk.openIndex path first = (.ok (directory, commit), disk)) ∧
    (first.checkCompatible second.layout ≠ .ok () → disk.openIndex path first =
      (.error (.schemaMismatch (.layout first.name first.version)), disk)) ∧
    (first.Discerns second →
      (first.checkCompatible second.layout = .ok () ↔ first.layout = second.layout) ∧
      (first.checkCompatible second.layout = .ok () →
        first.bind commit.layout = .ok first.bound)) := by
  have opened := Disk.openIndex_found index first
  rw [layout] at opened
  refine ⟨first.checkCompatible_iff second, fun compatible => ?_, fun refused => ?_,
    fun discerns => ⟨discerns.checkCompatible_iff, fun compatible => ?_⟩⟩
  · rw [opened, compatible]
  · cases checked : first.checkCompatible second.layout with
    | ok => exact absurd checked refused
    | error fault => rw [opened, checked, first.checkCompatible_error checked]
  · rw [layout, ← discerns.checkCompatible_iff.mp compatible, first.bind_layout]

/-- An index with one column more is left alone. -/
theorem Schema.opens_layout_longer :
    let key : Field Unit := ⟨"k", .exact, true, true, fun _ => []⟩
    let title : Field Unit := ⟨"t", .fullText, true, false, fun _ => []⟩
    let count : Field Unit := ⟨"n", .integer, false, true, fun _ => []⟩
    let first : Schema Unit := ⟨"recs", 1, [key, title], key, by decide, by decide, by simp, by decide⟩
    let second : Schema Unit :=
      ⟨"recs", 1, [key, title, count], key, by decide, by decide, by simp, by decide⟩
    let disk := (Disk.empty.openIndex ["recs_0001"] second).2
    (first.checkCompatible second.layout = .ok () ↔ first.layout = second.layout) ∧
      disk.openIndex ["recs_0001"] first = (.error (.schemaMismatch (.layout "recs" 1)), disk) := by
  intro key title count first second disk
  have opened : Disk.empty.openIndex ["recs_0001"] second =
      (.ok (["recs_0001"], .first second.layout), disk) := rfl
  obtain ⟨_, leads, stores⟩ := Disk.openIndex_fresh rfl opened
  have discerns : first.Discerns second := by
    simp [Schema.Discerns, Field.Matches, first, second, key, title, count]
  obtain ⟨_, _, refused, exactly⟩ :=
    first.opens_layout second (stores.hasIndex leads (by decide)) rfl
  exact ⟨(exactly discerns).1, refused (by decide)⟩

/-- An index is opened although the terms of a column are words there, and not whole texts, and
    although hits can be ordered by another column there only. -/
theorem Schema.opens_other_layout :
    let key : Field Unit := ⟨"k", .exact, true, true, fun _ => []⟩
    let fields (kind : FieldKind) (sortable : Bool) : List (Field Unit) :=
      [key, ⟨"t", kind, true, false, fun _ => []⟩, ⟨"n", .integer, false, sortable, fun _ => []⟩]
    let first : Schema Unit :=
      ⟨"recs", 1, fields .exact true, key, by decide, by decide, by simp [fields], by decide⟩
    let second : Schema Unit :=
      ⟨"recs", 1, fields .fullText false, key, by decide, by decide, by simp [fields], by decide⟩
    let disk := (Disk.empty.openIndex ["recs_0001"] second).2
    first.layout ≠ second.layout ∧ first.checkCompatible second.layout = .ok () ∧
      disk.openIndex ["recs_0001"] first =
        (.ok (["recs_0001"], .first second.layout), disk) := by
  intro key fields first second disk
  have opened : Disk.empty.openIndex ["recs_0001"] second =
      (.ok (["recs_0001"], .first second.layout), disk) := rfl
  obtain ⟨_, leads, stores⟩ := Disk.openIndex_fresh rfl opened
  exact ⟨by decide, rfl, Disk.openIndex_found (stores.hasIndex leads (by decide)) first⟩

end KeyedIndex
