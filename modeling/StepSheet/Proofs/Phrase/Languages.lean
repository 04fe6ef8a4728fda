import Mathlib.Data.List.Forall2
import Mathlib.Data.List.Nodup
import StepSheet.Phrase.Basic
import StepSheet.Proofs.Text.Folded

/-!
# The language that fits best

A requested tag is looked for in three steps, and each of them only where the one before finds
nothing: as a whole, by its first part, and by the first part of what is there. Where no two tags
are the same up to case there is one answer, which is a tag that is there and answers itself.
-/

namespace StepSheet

theorem Text.sameFolded_iff {a b : String} :
    sameFolded a b ↔ Chars.lower a.toList = Chars.lower b.toList := beq_iff_eq

theorem Chars.head?_splitOn (sep : Char) (cs : List Char) :
    (splitOn sep cs).head? = some (cs.takeWhile (· ≠ sep)) := by
  induction cs with
  | nil => rfl
  | cons c cs ih =>
      obtain ⟨piece, pieces, split⟩ := List.exists_cons_of_ne_nil (splitOn_ne_nil sep cs)
      rw [split, List.head?_cons, Option.some_inj] at ih
      by_cases ends : c = sep
      · simp [splitOn, ends]
      · simp [splitOn, ends, split, ih]

namespace Locale

/-! ### The best fit -/

def IsFirstPart (part tag : String) : Prop := (Text.splitOn '-' tag).head? = some part

theorem isFirstPart_iff {part tag : String} : IsFirstPart part tag ↔ language tag = part := by
  rw [IsFirstPart, Text.splitOn, List.head?_map, Chars.head?_splitOn, Option.map_some,
    Option.some_inj, language]

/-- A tag whose first part is a text, up to case. -/
def StartsWithPart (part tag : String) : Prop :=
  ∃ first, IsFirstPart first tag ∧ Text.sameFolded first part

theorem startsWithPart_iff {part tag : String} :
    StartsWithPart part tag ↔ Text.sameFolded (language tag) part := by
  simp [StartsWithPart, isFirstPart_iff]

/-- The tag that fits a requested one: it is the same up to case; or, if there is no such tag, the
same as its first part; or else the first tag with this first part; or else English. -/
inductive Fits (available : List String) (requested : String) : String → Prop
  | whole {tag : String} (listed : tag ∈ available) (same : Text.sameFolded tag requested) :
      Fits available requested tag
  | part {tag part : String} (first : IsFirstPart part requested)
      (noWhole : ∀ other ∈ available, ¬ Text.sameFolded other requested)
      (listed : tag ∈ available) (same : Text.sameFolded tag part) :
      Fits available requested tag
  | related {tag part : String} {before after : List String} (first : IsFirstPart part requested)
      (noWhole : ∀ other ∈ available, ¬ Text.sameFolded other requested)
      (noPart : ∀ other ∈ available, ¬ Text.sameFolded other part)
      (split : available = before ++ tag :: after) (starts : StartsWithPart part tag)
      (earlier : ∀ other ∈ before, ¬ StartsWithPart part other) :
      Fits available requested tag
  | english {part : String} (first : IsFirstPart part requested)
      (noWhole : ∀ other ∈ available, ¬ Text.sameFolded other requested)
      (noPart : ∀ other ∈ available, ¬ Text.sameFolded other part)
      (noRelated : ∀ other ∈ available, ¬ StartsWithPart part other) :
      Fits available requested "en"

variable {available : List String} {requested tag : String}

theorem fits_resolve (available : List String) (requested : String) :
    Fits available (Text.replace '_' '-' requested) (resolve available requested) := by
  rw [resolve]
  have first := isFirstPart_iff.mpr (Eq.refl (language (Text.replace '_' '-' requested)))
  split
  · next tag found =>
    exact .whole (List.mem_of_find?_eq_some found) (by simpa using List.find?_some found)
  · next noWhole =>
    rw [List.find?_eq_none] at noWhole
    split
    · next tag found =>
      exact .part first noWhole (List.mem_of_find?_eq_some found)
        (by simpa using List.find?_some found)
    · next noPart =>
      rw [List.find?_eq_none] at noPart
      cases found : available.find? _ with
      | some tag =>
          obtain ⟨starts, before, after, split, earlier⟩ := List.find?_eq_some_iff_append.mp found
          refine .related first noWhole noPart split (startsWithPart_iff.mpr starts) ?_
          intro other member starts'
          have differs := earlier other member
          rw [startsWithPart_iff.mp starts'] at differs
          cases differs
      | none =>
          rw [List.find?_eq_none] at found
          exact .english first noWhole noPart fun other member starts =>
            found other member (startsWithPart_iff.mp starts)

/-! ### Tags that are different in more than case -/

section

variable (apart : (available.map fun tag => Chars.lower tag.toList).Nodup)

include apart

/-- The tag that is the same as a text is what is found, since there is only one. -/
theorem find?_sameFolded (listed : tag ∈ available) (same : Text.sameFolded tag requested) :
    available.find? (Text.sameFolded · requested) = some tag := by
  have exists_same : (available.find? (Text.sameFolded · requested)).isSome :=
    List.find?_isSome.mpr ⟨tag, listed, same⟩
  obtain ⟨found, first⟩ := Option.isSome_iff_exists.mp exists_same
  have same' : Text.sameFolded found requested := by simpa using List.find?_some first
  have alike : Chars.lower found.toList = Chars.lower tag.toList :=
    (Text.sameFolded_iff.mp same').trans (Text.sameFolded_iff.mp same).symm
  rw [first, List.inj_on_of_nodup_map apart (List.mem_of_find?_eq_some first) listed alike]

theorem Fits.resolve_eq (h : Fits available (Text.replace '_' '-' requested) tag) :
    resolve available requested = tag := by
  rw [resolve]
  cases h with
  | whole listed same => rw [find?_sameFolded apart listed same]
  | part first noWhole listed same =>
      rw [List.find?_eq_none.mpr noWhole, isFirstPart_iff.mp first,
        find?_sameFolded apart listed same]
  | @related _ part before after first noWhole noPart split starts earlier =>
      have found : available.find? (fun tag => Text.sameFolded (language tag) part) = some tag := by
        refine List.find?_eq_some_iff_append.mpr ⟨startsWithPart_iff.mp starts, _, _, split, ?_⟩
        intro other member
        simpa [startsWithPart_iff] using earlier other member
      rw [List.find?_eq_none.mpr noWhole, isFirstPart_iff.mp first, List.find?_eq_none.mpr noPart,
        found]
      rfl
  | @english part first noWhole noPart noRelated =>
      have none : available.find? (fun tag => Text.sameFolded (language tag) part) = none := by
        refine List.find?_eq_none.mpr fun other member => ?_
        exact fun starts => noRelated other member (startsWithPart_iff.mpr starts)
      rw [List.find?_eq_none.mpr noWhole, isFirstPart_iff.mp first, List.find?_eq_none.mpr noPart,
        none]
      rfl

end

theorem Fits.listed (english : "en" ∈ available) (h : Fits available requested tag) :
    tag ∈ available := by
  cases h with
  | whole listed => exact listed
  | part first noWhole listed => exact listed
  | related first noWhole noPart split => simp [split]
  | english => exact english

/-- The language selected among those of messages is the one whose tag fits best. -/
theorem tag_select (requested : String) :
    (select requested).tag = resolve (all.map Locale.tag) requested := by
  have english : "en" ∈ all.map Locale.tag := List.mem_map.mpr ⟨en, by decide, rfl⟩
  have listed := (fits_resolve (all.map Locale.tag) requested).listed english
  obtain ⟨locale, -, found⟩ := List.mem_map.mp listed
  rw [select, ← found]
  cases locale <;> decide +kernel

theorem replace_eq_self (hyphens : '_' ∉ tag.toList) : Text.replace '_' '-' tag = tag := by
  have same : ∀ c ∈ tag.toList, (if c = '_' then '-' else c) = c := by
    intro c member
    have other : c ≠ '_' := fun underscore => hyphens (underscore ▸ member)
    exact if_neg other
  rw [Text.replace, Chars.replace, List.map_congr_left same, List.map_id', String.ofList_toList]

/-! ### Requests in another spelling -/

def IsSeparator (c : Char) : Prop := c = '-' ∨ c = '_'

/-- Requested tags that differ in the case of ASCII letters and in what separates parts only. -/
def AskAlike (requested other : String) : Prop :=
  List.Forall₂ (fun c c' => c.toLower = c'.toLower ∨ IsSeparator c ∧ IsSeparator c')
    requested.toList other.toList

theorem toLower_hyphened {c c' : Char} (h : c.toLower = c'.toLower) :
    (if c = '_' then '-' else c).toLower = (if c' = '_' then '-' else c').toLower := by
  have caseless (c : Char) : (c.toLower == '_') = (c == '_') :=
    apply_toLower (p := (· == '_')) (by decide) c
  have same : c = '_' ↔ c' = '_' := by
    rw [← beq_iff_eq, ← caseless, h, caseless, beq_iff_eq]
  by_cases underscore : c = '_'
  · rw [if_pos underscore, if_pos (same.mp underscore)]
  · rw [if_neg underscore, if_neg fun underscore' => underscore (same.mpr underscore'), h]

theorem AskAlike.sameFolded {other : String} (h : AskAlike requested other) :
    Text.sameFolded (Text.replace '_' '-' requested) (Text.replace '_' '-' other) := by
  rw [Text.sameFolded_iff, Text.replace, Text.replace, String.toList_ofList, String.toList_ofList,
    Chars.lower, Chars.lower, Chars.replace, Chars.replace, List.map_map, List.map_map,
    ← List.forall₂_eq_eq_eq, List.forall₂_map_left_iff, List.forall₂_map_right_iff]
  refine h.imp fun c c' alike => ?_
  obtain same | ⟨rfl | rfl, rfl | rfl⟩ := alike
  · exact toLower_hyphened same
  all_goals rfl

theorem lower_language (tag : String) :
    Chars.lower (language tag).toList = (Chars.lower tag.toList).takeWhile (· ≠ '-') := by
  have caseless : (fun c => decide (c ≠ '-')) ∘ Char.toLower = fun c => decide (c ≠ '-') :=
    funext (apply_toLower (p := fun c => decide (c ≠ '-')) (by decide))
  rw [language, String.toList_ofList, Chars.lower, Chars.lower, List.takeWhile_map, caseless]

/-- The case of a request does not matter. -/
theorem resolve_congr {other : String}
    (same : Text.sameFolded (Text.replace '_' '-' requested) (Text.replace '_' '-' other)) :
    resolve available requested = resolve available other := by
  have folded := Text.sameFolded_iff.mp same
  have folded' : Chars.lower (language (Text.replace '_' '-' requested)).toList =
      Chars.lower (language (Text.replace '_' '-' other)).toList := by
    rw [lower_language, folded, lower_language]
  simp only [resolve, Text.sameFolded, folded, folded']

/-- Of tags without underscores, different in more than case, and with English among them, the one
is selected that fits the request best with hyphens for underscores. It is one of these tags,
whatever is requested, and the same in every spelling of the request; and it selects itself. The
language of the messages is selected so among the tags of those that there are. -/
theorem best_fit_selected (hyphens : ∀ tag ∈ available, '_' ∉ tag.toList)
    (apart : (available.map fun tag => Chars.lower tag.toList).Nodup)
    (english : "en" ∈ available) (requested : String) :
    (∀ tag, resolve available requested = tag ↔
      Fits available (Text.replace '_' '-' requested) tag) ∧
    resolve available requested ∈ available ∧
    (∀ other, AskAlike requested other → resolve available other = resolve available requested) ∧
    resolve available (resolve available requested) = resolve available requested ∧
    (select requested).tag = resolve (all.map Locale.tag) requested := by
  have listed := (fits_resolve available requested).listed english
  refine ⟨fun tag => ⟨?_, Fits.resolve_eq apart⟩, listed, fun other alike => ?_, ?_,
    tag_select requested⟩
  · rintro rfl
    exact fits_resolve available requested
  · exact (resolve_congr alike.sameFolded).symm
  · apply Fits.resolve_eq apart
    rw [replace_eq_self (hyphens _ listed)]
    exact .whole listed (Text.sameFolded_iff.mpr rfl)

/-- Chinese as it is written in Taiwan is asked for, in capitals and with an underscore. -/
theorem chinese_selected_by_first_part :
    (∀ tag ∈ ["en", "zh-CN"], '_' ∉ tag.toList) ∧
      (["en", "zh-CN"].map fun tag => Chars.lower tag.toList).Nodup ∧
      "en" ∈ ["en", "zh-CN"] ∧ AskAlike "zh-TW" "ZH_TW" ∧
      Fits ["en", "zh-CN"] "zh-TW" "zh-CN" ∧
      resolve ["en", "zh-CN"] "ZH_TW" = "zh-CN" ∧ resolve ["en", "zh-CN"] "zh-CN" = "zh-CN" ∧
      (select "zh-TW").tag = "zh-CN" := by
  have hyphens : ∀ tag ∈ ["en", "zh-CN"], '_' ∉ tag.toList := by decide +kernel
  have apart : (["en", "zh-CN"].map fun tag => Chars.lower tag.toList).Nodup := by decide +kernel
  have english : "en" ∈ ["en", "zh-CN"] := by decide +kernel
  have alike : AskAlike "zh-TW" "ZH_TW" := by
    simp [AskAlike, IsSeparator]
  have selected : resolve ["en", "zh-CN"] "zh-TW" = "zh-CN" := by decide +kernel
  have tags : all.map Locale.tag = ["en", "zh-CN"] := by decide +kernel
  obtain ⟨fits, -, spelled, stable, messages⟩ := best_fit_selected hyphens apart english "zh-TW"
  refine ⟨hyphens, apart, english, alike, (fits _).mp selected, ?_, ?_, ?_⟩
  · exact (spelled _ alike).trans selected
  · exact selected ▸ stable
  · rw [messages, tags, selected]

end Locale

end StepSheet
