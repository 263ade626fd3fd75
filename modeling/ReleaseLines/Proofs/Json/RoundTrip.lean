import ReleaseLines.Proofs.Json.Quotation
import Mathlib.Data.List.Nodup

namespace ReleaseLines.Json

/-- A value whose written form is on one line and is read as the value again, whatever follows. -/
structure ReadsBack (value : Json) : Prop where
  starts : ∃ c cs, value.write.toList = c :: cs ∧ isGap c = false ∧ c ≠ ']'
  le_of_mem : ∀ c ∈ value.write.toList, 0x20 ≤ c.toNat
  reads : ∀ (depth : Nat) (rest : List Char), value.write.toList.length ≤ depth →
    readValue depth (value.write.toList ++ rest) = some (value, rest)

theorem skipGap_cons {c : Char} (h : isGap c = false) (cs : List Char) :
    skipGap (c :: cs) = c :: cs :=
  List.dropWhile_cons_of_neg (by simp [h])

theorem skipGap_blank (cs : List Char) : skipGap (' ' :: cs) = skipGap cs :=
  List.dropWhile_cons_of_pos rfl

theorem readsBack_str (s : String) : ReadsBack (str s) where
  starts := ⟨'"', _, toList_writeText s, rfl, by decide⟩
  le_of_mem := fun _ h => le_of_mem_writeText h
  reads := by
    intro depth rest hdepth
    rw [write, toList_writeText] at hdepth ⊢
    obtain ⟨depth, rfl⟩ := Nat.exists_eq_add_one_of_ne_zero (n := depth) (by simp at hdepth; omega)
    rw [List.cons_append, List.append_assoc, List.singleton_append, readValue, readText_flatMap]
    rfl

theorem writeItems_eq_map (items : List Json) : writeItems items = items.map write := by
  induction items with
  | nil => rfl
  | cons item rest ih => rw [writeItems, ih, List.map_cons]

/-- Written parts with a comma and a blank between them. -/
def joinedChars (parts : List (List Char)) : List Char := List.intercalate [',', ' '] parts

theorem joinedChars_cons_cons (part next : List Char) (rest : List (List Char)) :
    joinedChars (part :: next :: rest) = part ++ ',' :: ' ' :: joinedChars (next :: rest) := by
  rw [joinedChars, List.intercalate_cons_cons, List.append_assoc]
  rfl

theorem joinedChars_starts {part : List Char} {c : Char} {cs : List Char} (h : part = c :: cs)
    (rest : List (List Char)) : ∃ tail, joinedChars (part :: rest) = c :: tail := by
  cases rest with
  | nil => exact ⟨cs, by rw [joinedChars, List.intercalate_singleton, h]⟩
  | cons next rest => exact ⟨_, by rw [joinedChars_cons_cons, h, List.cons_append]⟩

theorem skipGap_joinedChars {part : List Char} {c : Char} {cs : List Char} (h : part = c :: cs)
    (hgap : isGap c = false) (rest : List (List Char)) (after : List Char) :
    skipGap (joinedChars (part :: rest) ++ after) = joinedChars (part :: rest) ++ after := by
  obtain ⟨tail, htail⟩ := joinedChars_starts h rest
  rw [htail, List.cons_append, skipGap_cons hgap]

theorem le_of_mem_joinedChars {parts : List (List Char)}
    (h : ∀ part ∈ parts, ∀ c ∈ part, 0x20 ≤ c.toNat) : ∀ c ∈ joinedChars parts, 0x20 ≤ c.toNat := by
  induction parts with
  | nil => exact fun _ => List.not_mem_nil.elim
  | cons part rest ih =>
    have hpart := h part (by simp)
    cases rest with
    | nil => rwa [joinedChars, List.intercalate_singleton]
    | cons next rest =>
      have hrest := ih fun other ho => h other (List.mem_cons_of_mem part ho)
      simp only [joinedChars_cons_cons, List.mem_append, List.mem_cons]
      rintro c (hc | rfl | rfl | hc)
      · exact hpart c hc
      · decide
      · decide
      · exact hrest c hc

theorem le_of_mem_bracketed {first last : Char} {parts : List (List Char)}
    (hfirst : 0x20 ≤ first.toNat) (hlast : 0x20 ≤ last.toNat)
    (h : ∀ part ∈ parts, ∀ c ∈ part, 0x20 ≤ c.toNat) :
    ∀ c ∈ first :: (joinedChars parts ++ [last]), 0x20 ≤ c.toNat := by
  simp only [List.mem_cons, List.mem_append, List.not_mem_nil, or_false]
  rintro c (rfl | hc | rfl)
  · exact hfirst
  · exact le_of_mem_joinedChars h c hc
  · exact hlast

theorem toList_write_arr (items : List Json) :
    (arr items).write.toList = '[' :: (joinedChars (items.map (·.write.toList)) ++ [']']) := by
  rw [write, writeItems_eq_map]
  simp [joinedChars, String.toList_append, String.toList_intercalate, List.map_map,
    Function.comp_def]

theorem readItems_joinedChars {items : List Json} (hne : items ≠ [])
    (h : ∀ item ∈ items, ReadsBack item) (depth : Nat)
    (hdepth : (joinedChars (items.map (·.write.toList))).length < depth) (before : List Json)
    (rest : List Char) :
    readItems depth before (joinedChars (items.map (·.write.toList)) ++ ']' :: rest) =
      some (arr (before.reverse ++ items), rest) := by
  induction items generalizing depth before with
  | nil => exact absurd rfl hne
  | cons item others ih =>
    obtain ⟨depth, rfl⟩ := Nat.exists_eq_add_one_of_ne_zero (Nat.ne_zero_of_lt hdepth)
    have hitem := h item (by simp)
    cases others with
    | nil =>
      have hwrite : joinedChars ([item].map (·.write.toList)) = item.write.toList :=
        List.intercalate_singleton
      rw [hwrite] at hdepth ⊢
      rw [readItems, hitem.reads depth _ (Nat.le_of_lt_succ hdepth)]
      simp only [skipGap_cons (c := ']') rfl, List.reverse_cons]
    | cons next others =>
      have hwrite := joinedChars_cons_cons item.write.toList next.write.toList
        (others.map (·.write.toList))
      obtain ⟨c, cs, hc, hgap, _⟩ := (h next (by simp)).starts
      simp only [List.map_cons] at hdepth ih ⊢
      rw [hwrite, List.length_append, List.length_cons, List.length_cons] at hdepth
      rw [hwrite, List.append_assoc, List.cons_append, List.cons_append, readItems,
        hitem.reads depth _ (by omega)]
      simp only [skipGap_cons (c := ',') rfl, skipGap_blank, skipGap_joinedChars hc hgap]
      rw [ih (List.cons_ne_nil _ _) (fun other ho => h other (List.mem_cons_of_mem item ho))
        depth (by omega)]
      simp

theorem readsBack_arr {items : List Json} (h : ∀ item ∈ items, ReadsBack item) :
    ReadsBack (arr items) where
  starts := ⟨'[', _, toList_write_arr items, rfl, by decide⟩
  le_of_mem := by
    rw [toList_write_arr]
    refine le_of_mem_bracketed (by decide) (by decide) fun part hpart => ?_
    obtain ⟨item, hitem, rfl⟩ := List.mem_map.mp hpart
    exact (h item hitem).le_of_mem
  reads := by
    intro depth rest hdepth
    rw [toList_write_arr, List.length_cons, List.length_append, List.length_singleton] at hdepth
    obtain ⟨depth, rfl⟩ := Nat.exists_eq_add_one_of_ne_zero (n := depth) (by omega)
    rw [toList_write_arr, List.cons_append, List.append_assoc, List.singleton_append, readValue]
    cases items with
    | nil => rfl
    | cons item others =>
      obtain ⟨c, cs, hc, hgap, hclose⟩ := (h item (by simp)).starts
      obtain ⟨tail, htail⟩ := joinedChars_starts hc (others.map (·.write.toList))
      have hread := readItems_joinedChars (List.cons_ne_nil item others) h depth (by omega) [] rest
      simp only [List.map_cons] at hread ⊢
      rw [htail, List.cons_append] at hread ⊢
      rw [skipGap_cons hgap]
      split
      next heq => exact absurd (List.cons.inj heq).1 hclose
      next => simpa using hread

theorem readsBack_texts (values : List String) : ReadsBack (texts values) :=
  readsBack_arr fun _ h => by
    obtain ⟨text, _, rfl⟩ := List.mem_map.mp h
    exact readsBack_str text

/-- A name and its value, written. -/
def memberChars (member : String × Json) : List Char :=
  (writeText member.1).toList ++ ':' :: ' ' :: member.2.write.toList

theorem memberChars_starts (member : String × Json) : ∃ cs, memberChars member = '"' :: cs :=
  ⟨_, by rw [memberChars, toList_writeText, List.cons_append]⟩

theorem toList_write_obj (members : List (String × Json)) :
    (obj members).write.toList = '\x7b' :: (joinedChars (members.map memberChars) ++ ['\x7d']) := by
  have hwrite : writeMembers members = members.map fun m => writeText m.1 ++ ": " ++ write m.2 := by
    induction members with
    | nil => rfl
    | cons member rest ih => rw [writeMembers, ih, List.map_cons]
  rw [write, hwrite]
  simp only [String.toList_append, String.toList_intercalate, List.map_map, Function.comp_def,
    List.append_assoc]
  rfl

theorem putMember_of_ne {members : List (String × Json)} {name : String} {value : Json}
    (h : ∀ member ∈ members, member.1 ≠ name) :
    putMember members name value = members ++ [(name, value)] := by
  induction members with
  | nil => rfl
  | cons member rest ih =>
    rw [putMember, if_neg (by simpa using h member (by simp)),
      ih fun other ho => h other (List.mem_cons_of_mem member ho), List.cons_append]

/-- One member is read, and what follows it decides how it goes on. -/
theorem readMembers_memberChars {member : String × Json} (h : ReadsBack member.2) {depth : Nat}
    (hdepth : member.2.write.toList.length ≤ depth) {before : List (String × Json)}
    (hbefore : ∀ other ∈ before, other.1 ≠ member.1) (rest : List Char) :
    readMembers (depth + 1) before (memberChars member ++ '\x7d' :: rest) =
        some (obj (before ++ [member]), rest) ∧
      readMembers (depth + 1) before (memberChars member ++ ',' :: ' ' :: rest) =
        readMembers depth (before ++ [member]) (skipGap rest) := by
  obtain ⟨name, value⟩ := member
  obtain ⟨c, cs, hc, hgap, _⟩ := h.starts
  have hskip (after : List Char) :
      skipGap (value.write.toList ++ after) = value.write.toList ++ after := by
    rw [hc, List.cons_append, skipGap_cons hgap]
  have hwrite (after : List Char) : memberChars (name, value) ++ after =
      '"' :: (name.toList.flatMap escapedChar ++
        '"' :: ':' :: ' ' :: (value.write.toList ++ after)) := by
    simp [memberChars, toList_writeText]
  constructor
  · rw [hwrite, readMembers, readText_flatMap]
    simp only [skipGap_cons (c := ':') rfl, skipGap_blank, hskip, h.reads depth _ hdepth,
      putMember_of_ne hbefore, skipGap_cons (c := '\x7d') rfl]
  · rw [hwrite, readMembers, readText_flatMap]
    simp only [skipGap_cons (c := ':') rfl, skipGap_blank, hskip, h.reads depth _ hdepth,
      putMember_of_ne hbefore, skipGap_cons (c := ',') rfl]

theorem readMembers_joinedChars {members : List (String × Json)} (hne : members ≠ [])
    (h : ∀ member ∈ members, ReadsBack member.2) (depth : Nat)
    (hdepth : (joinedChars (members.map memberChars)).length < depth)
    (before : List (String × Json)) (hnames : ((before ++ members).map Prod.fst).Nodup)
    (rest : List Char) :
    readMembers depth before (joinedChars (members.map memberChars) ++ '\x7d' :: rest) =
      some (obj (before ++ members), rest) := by
  induction members generalizing depth before with
  | nil => exact absurd rfl hne
  | cons member others ih =>
    obtain ⟨depth, rfl⟩ := Nat.exists_eq_add_one_of_ne_zero (Nat.ne_zero_of_lt hdepth)
    have hmember := h member (by simp)
    have hbefore : ∀ other ∈ before, other.1 ≠ member.1 := by
      rw [List.map_append, List.nodup_append] at hnames
      exact fun other ho => hnames.2.2 other.1 (List.mem_map_of_mem ho) member.1 (by simp)
    have hlength : member.2.write.toList.length < (memberChars member).length := by
      rw [memberChars, List.length_append, List.length_cons, List.length_cons]
      omega
    cases others with
    | nil =>
      have hjoined : joinedChars ([member].map memberChars) = memberChars member :=
        List.intercalate_singleton
      rw [hjoined] at hdepth ⊢
      exact (readMembers_memberChars hmember (by omega) hbefore rest).1
    | cons next others =>
      obtain ⟨cs, hcs⟩ := memberChars_starts next
      simp only [List.map_cons] at hdepth ih ⊢
      rw [joinedChars_cons_cons] at hdepth ⊢
      rw [List.length_append, List.length_cons, List.length_cons] at hdepth
      rw [List.append_assoc, List.cons_append, List.cons_append,
        (readMembers_memberChars hmember (by omega) hbefore _).2, skipGap_joinedChars hcs rfl]
      have hothers : ∀ other ∈ next :: others, ReadsBack other.2 := fun other ho =>
        h other (List.mem_cons_of_mem member ho)
      rw [ih (List.cons_ne_nil _ _) hothers depth (by omega) (before ++ [member])
        (by simpa using hnames)]
      simp

/-- Members are read back in order if no two have the same name. -/
theorem readsBack_obj {members : List (String × Json)} (hnames : (members.map Prod.fst).Nodup)
    (h : ∀ member ∈ members, ReadsBack member.2) : ReadsBack (obj members) where
  starts := ⟨'\x7b', _, toList_write_obj members, rfl, by decide⟩
  le_of_mem := by
    rw [toList_write_obj]
    refine le_of_mem_bracketed (by decide) (by decide) fun part hpart => ?_
    obtain ⟨member, hmember, rfl⟩ := List.mem_map.mp hpart
    simp only [memberChars, List.mem_append, List.mem_cons]
    rintro c (hc | rfl | rfl | hc)
    · exact le_of_mem_writeText hc
    · decide
    · decide
    · exact (h member hmember).le_of_mem c hc
  reads := by
    intro depth rest hdepth
    rw [toList_write_obj, List.length_cons, List.length_append, List.length_singleton] at hdepth
    obtain ⟨depth, rfl⟩ := Nat.exists_eq_add_one_of_ne_zero (n := depth) (by omega)
    rw [toList_write_obj, List.cons_append, List.append_assoc, List.singleton_append, readValue]
    cases members with
    | nil => rfl
    | cons member others =>
      obtain ⟨cs, hcs⟩ := memberChars_starts member
      obtain ⟨tail, htail⟩ := joinedChars_starts hcs (others.map memberChars)
      have hread := readMembers_joinedChars (List.cons_ne_nil member others) h depth (by omega) []
        (by simpa using hnames) rest
      simp only [List.map_cons] at hread ⊢
      rw [htail, List.cons_append] at hread ⊢
      rw [skipGap_cons (c := '"') rfl]
      exact hread

/-- A value is read from its written form and from nothing else in it. -/
theorem ReadsBack.read?_write {value : Json} (h : ReadsBack value) :
    read? value.write = some value := by
  obtain ⟨c, cs, hwrite, hgap, _⟩ := h.starts
  have hskip : skipGap value.write.toList = value.write.toList := by
    rw [hwrite, skipGap_cons hgap]
  have hread : readValue (2 * value.write.toList.length) value.write.toList = some (value, []) := by
    simpa using h.reads (2 * value.write.toList.length) [] (by omega)
  simp only [read?, hskip, hread]
  rfl

end ReleaseLines.Json
