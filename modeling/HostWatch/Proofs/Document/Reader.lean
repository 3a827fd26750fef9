/-
The documents that tokens are read as.

The machine that reads tokens keeps what is still open on a stack. A document
of its own is read the same wherever it stands, and comes to one more item of
what is open there (`ReadsAs`), as long as it is not nested too deep for that
place. Lists and records are built up from this, one item at a time: what has
been read of them is on top of the stack.
-/
import HostWatch.Document.Reader
import HostWatch.Proofs.Document

namespace HostWatch.Document

-- ==================================================== single tokens

/-- Some tokens are read as a document that is nested at most `n` deep, where
there is room for it. -/
def ReadsAs (n : Nat) (tokens : List Token) (d : Document) : Prop :=
  ∀ frames expect, frames.length + n ≤ depthLimit .data →
    (expect = .value ∨ expect = .firstItem) →
    tokens.foldlM (Progress.take? .data) ⟨frames, expect⟩ = some (put frames d)

/-- A token is read as what stands for it. -/
private theorem readsAs_token {n : Nat} {t : Token} {d : Document}
    (hvalue : ∀ frames, Progress.take? .data ⟨frames, .value⟩ t
      = some (put frames d))
    (hfirst : ∀ frames, Progress.take? .data ⟨frames, .firstItem⟩ t
      = some (put frames d)) : ReadsAs n [t] d := by
  rintro frames _ - (rfl | rfl)
  · rw [List.foldlM_cons, hvalue]
    rfl
  · rw [List.foldlM_cons, hfirst]
    rfl

theorem readsAs_text (n : Nat) (s : String) :
    ReadsAs n [.text (some s)] (.text s) :=
  readsAs_token (fun _ => rfl) fun _ => rfl

theorem readsAs_null (n : Nat) : ReadsAs n [.word "null".toList] .null :=
  readsAs_token (fun _ => rfl) fun _ => rfl

theorem readsAs_bool (n : Nat) (b : Bool) :
    ReadsAs n [.word (if b then "true" else "false").toList] (.bool b) := by
  cases b with
  | false => exact readsAs_token (fun _ => rfl) fun _ => rfl
  | true => exact readsAs_token (fun _ => rfl) fun _ => rfl

theorem readsAs_number (n : Nat) {s : List Char} {d : Document}
    (h : ofNumber? .data s = some d) : ReadsAs n [.number s] d := by
  refine readsAs_token (fun frames => ?_) fun frames => ?_
  · show (ofNumber? .data s).map (put frames) = _
    rw [h, Option.map_some]
  · show (ofNumber? .data s).map (put frames) = _
    rw [h, Option.map_some]

-- ==================================================== lists and records

/-- A list or record that ends is read as itself where there is room for it. -/
private theorem putNested_of_room {n : Nat} {frames : List Frame}
    (h : frames.length + (n + 1) ≤ depthLimit .data) (d : Document) :
    putNested .data frames d = put frames d := by
  unfold putNested
  rw [if_pos (by omega)]

/-- Parts with commas in between are read one after the other, if each of them
leads from where a part may begin (`next`) to where a comma or the end may
follow (`read`), with one more entry. -/
private theorem read_parts {α β : Type} {part : α → List Token} {entry : α → β}
    (next read : List β → Progress)
    (hcomma : ∀ entries,
      Progress.take? .data (read entries) (.mark ',') = some (next entries))
    {items : List α} :
    (∀ a ∈ items, ∀ entries, (part a).foldlM (Progress.take? .data)
      (next entries) = some (read (entry a :: entries))) →
    ∀ {a : α} {entries : List β} {start : Progress},
      (part a).foldlM (Progress.take? .data) start
        = some (read (entry a :: entries)) →
      ([.mark ','].intercalate ((a :: items).map part)).foldlM
          (Progress.take? .data) start
        = some (read (((a :: items).map entry).reverse ++ entries)) := by
  induction items with
  | nil =>
      intro _ a entries start hstart
      rw [List.map_singleton, List.intercalate_singleton]
      exact hstart
  | cons b more ih =>
      intro hitems a entries start hstart
      rw [List.forall_mem_cons] at hitems
      have hmore := ih hitems.2 (hitems.1 (entry a :: entries))
      have hreverse : ((a :: b :: more).map entry).reverse ++ entries
          = ((b :: more).map entry).reverse ++ entry a :: entries := by
        simp
      rw [List.map_cons, List.map_cons, List.intercalate_cons_cons,
        List.foldlM_append, List.foldlM_append, hstart]
      show ((Progress.take? .data (read _) (.mark ',')).bind _).bind _ = _
      rw [hcomma, Option.bind_some, hreverse]
      exact hmore

variable {α : Type} {n : Nat} {tokens : α → List Token} {doc : α → Document}

/-- A list is read from its items. -/
theorem readsAs_list {items : List α}
    (h : ∀ a ∈ items, ReadsAs n (tokens a) (doc a)) :
    ReadsAs (n + 1)
      (.mark '[' :: ([.mark ','].intercalate (items.map tokens)
        ++ [.mark ']'])) (.list (items.map doc)) := by
  intro frames expect hroom hexpect
  have hopen : Progress.take? .data ⟨frames, expect⟩ (.mark '[')
      = some ⟨.list [] :: frames, .firstItem⟩ := by
    rcases hexpect with rfl | rfl <;> rfl
  have hinside : (Frame.list [] :: frames).length + n ≤ depthLimit .data := by
    rw [List.length_cons]
    omega
  rw [List.foldlM_cons, hopen]
  cases items with
  | nil => exact congrArg some (putNested_of_room hroom _)
  | cons a more =>
      rw [List.forall_mem_cons] at h
      have hitems : ([.mark ','].intercalate ((a :: more).map tokens)).foldlM
          (Progress.take? .data) ⟨.list [] :: frames, .firstItem⟩
          = some ⟨.list (((a :: more).map doc).reverse ++ []) :: frames,
            .separator⟩ :=
        read_parts (fun docs => ⟨.list docs :: frames, .value⟩)
          (fun docs => ⟨.list docs :: frames, .separator⟩) (fun _ => rfl)
          (fun b hb _ => h.2 b hb _ .value hinside (Or.inl rfl))
          (h.1 _ .firstItem hinside (Or.inr rfl))
      show List.foldlM _ _ _ = _
      rw [List.foldlM_append, hitems, List.append_nil]
      show some (putNested .data frames (.list _)) = _
      rw [List.reverse_reverse, putNested_of_room hroom]

/-- A record is read from its fields, each of which has a name, a colon and
the tokens of its value. -/
theorem readsAs_record {name : α → String} {fields : List α}
    (h : ∀ a ∈ fields, ReadsAs n (tokens a) (doc a)) :
    ReadsAs (n + 1)
      (.mark '\x7b' :: ([.mark ','].intercalate
          (fields.map fun a => .text (some (name a)) :: .mark ':' :: tokens a)
        ++ [.mark '\x7d']))
      (.record (fields.map fun a => (name a, doc a))) := by
  intro frames expect hroom hexpect
  have hopen : Progress.take? .data ⟨frames, expect⟩ (.mark '\x7b')
      = some ⟨frames, .firstName⟩ := by
    rcases hexpect with rfl | rfl <;> rfl
  let entry (a : α) : Option String × Document := (some (name a), doc a)
  -- the value of a field is read inside of its record
  have hfield : ∀ a ∈ fields, ∀ named,
      (tokens a).foldlM (Progress.take? .data)
          ⟨.record named (some (name a)) :: frames, .value⟩
        = some ⟨.record (entry a :: named) none :: frames, .separator⟩ := by
    intro a ha named
    refine h a ha _ .value ?_ (Or.inl rfl)
    rw [List.length_cons]
    omega
  rw [List.foldlM_cons, hopen]
  cases fields with
  | nil => exact congrArg some (putNested_of_room hroom _)
  | cons a more =>
      rw [List.forall_mem_cons] at hfield
      have hfields : ([.mark ','].intercalate ((a :: more).map fun a =>
            .text (some (name a)) :: .mark ':' :: tokens a)).foldlM
          (Progress.take? .data) ⟨frames, .firstName⟩
          = some ⟨.record (((a :: more).map entry).reverse ++ []) none
              :: frames, .separator⟩ :=
        read_parts (fun named => ⟨frames, .name named⟩)
          (fun named => ⟨.record named none :: frames, .separator⟩)
          (fun _ => rfl) hfield.2 (hfield.1 [])
      have hclose : closeRecord ((a :: more).map entry).reverse
          = .record ((a :: more).map fun a => (name a, doc a)) := by
        unfold closeRecord
        rw [List.reverse_reverse,
          @mapM_map_eq_some _ _ _ _ entry fun a => (name a, doc a)]
        exact fun _ _ => rfl
      show List.foldlM _ _ _ = _
      rw [List.foldlM_append, hfields, List.append_nil]
      show some (putNested .data frames (closeRecord _)) = _
      rw [hclose, putNested_of_room hroom]

-- ==================================================== documents

/-- A text is read as what its tokens are read as. -/
theorem read?_of_readsAs {s : String} {tokens : List Token} {d : Document}
    (hscan : tokens? .data s = some tokens) (hn : n ≤ depthLimit .data)
    (h : ReadsAs n tokens d) : read? .data s = some d := by
  have hread := h [] .value (by simpa using hn) (Or.inl rfl)
  have hall : s.toList.all (isAllowed .data) = true :=
    List.all_eq_true.mpr fun _ _ => rfl
  unfold read?
  rw [if_pos hall, hscan]
  show ((tokens.foldlM (Progress.take? .data) ⟨[], .value⟩).bind _) = _
  rw [hread]
  rfl

end HostWatch.Document
