/-
A catalog is refused exactly if supersession runs in a circle.

Supersession is a relation between names (`Supersedes`): the declared plugin
of the one, that is the last one of its name, lists the other. The search
follows it depth first from each declared name in turn. Two facts are kept
on the way, and one induction over the search carries them both
(`search_and_searchAll_answer`):

- the names that lie on the path, from the end backwards, form a chain of
  supersession without repetition, and every declared name that does not lie
  on it is still fresh (`Trail`). A name that is met again on the path
  therefore closes a circle (`Trail.circle`), and a name that is neither on
  the path nor fresh has no plugin and supersedes nothing;
- from a name that is clear, supersession ends whichever way it is
  followed (`Ends`). A name whose superseded names are all clear is clear
  itself, and no such name lies on a circle (`Ends.not_circular`).

That the clear names are kept from one root to the next, while each root
begins a path of its own, needs no argument of its own: what is said of a
clear name does not mention the path.
-/
import HostWatch.Proofs.SortedMap
import HostWatch.Section.Plugin
import Mathlib.Data.List.Chain
import Mathlib.Data.List.Nodup
import Mathlib.Logic.Relation

namespace HostWatch

-- ==================================================== supersession

/-- The declared plugin of a name: of several plugins the last one. -/
def SectionPlugin.declared? (plugins : List SectionPlugin) (name : SectionName) :
    Option SectionPlugin :=
  plugins.reverse.find? (·.name == name)

/-- The declared plugin of `name` supersedes the section `other`. -/
def SectionPlugin.Supersedes (plugins : List SectionPlugin)
    (name other : SectionName) : Prop :=
  ∃ plugin, declared? plugins name = some plugin ∧ other ∈ plugin.supersedes

/-- A way along a relation from a name back to it, on which no other name
occurs twice. -/
structure IsCircle (r : SectionName → SectionName → Prop)
    (circle : List SectionName) : Prop where
  long : 2 ≤ circle.length
  closed : circle.head? = circle.getLast?
  distinct : circle.dropLast.Nodup
  follows : circle.IsChain r

/-- A circle leads from some name back to it. -/
theorem IsCircle.circular {r : SectionName → SectionName → Prop}
    {circle : List SectionName} (h : IsCircle r circle) :
    ∃ name, Relation.TransGen r name name := by
  obtain ⟨hlong, hclosed, -, hfollows⟩ := h
  match circle, hlong with
  | first :: next :: rest, _ =>
    rw [List.isChain_cons_cons] at hfollows
    have hlast : (next :: rest).getLast (List.cons_ne_nil _ _) = first := by
      rw [List.head?_cons, List.getLast?_cons_cons,
        List.getLast?_eq_some_getLast (List.cons_ne_nil _ _)] at hclosed
      exact (Option.some.inj hclosed).symm
    have hback : Relation.ReflTransGen r next first :=
      List.relationReflTransGen_of_exists_isChain_cons rest hfollows.2 hlast
    exact ⟨first, Relation.TransGen.head' hfollows.1 hback⟩

namespace SectionPlugins

variable {plugins : SectionPlugins}

/-- A section supersedes what its plugin lists. -/
theorem mem_superseded {name other : SectionName} :
    other ∈ plugins.superseded name
      ↔ ∃ plugin, plugins.get? name = some plugin
          ∧ other ∈ plugin.supersedes := by
  unfold superseded SectionPlugin.supersededNames
  cases hplugin : SortedMap.get? plugins name with
  | none => simp
  | some plugin => simp [SortedMap.mem_keys_ofList]

/-- A section without a plugin supersedes nothing. -/
theorem superseded_of_not_mem_keys {name : SectionName}
    (h : name ∉ plugins.keys) : plugins.superseded name = [] := by
  rw [List.eq_nil_iff_forall_not_mem]
  intro other hother
  obtain ⟨plugin, hplugin, -⟩ := mem_superseded.mp hother
  exact h (SortedMap.mem_keys.mpr ⟨plugin, hplugin⟩)

/-- `later` comes right after `earlier` when supersession is followed. -/
def Next (plugins : SectionPlugins) (later earlier : SectionName) : Prop :=
  later ∈ plugins.superseded earlier

/-- Whichever way supersession is followed from `name`, it ends. -/
def Ends (plugins : SectionPlugins) (name : SectionName) : Prop :=
  Acc plugins.Next name

/-- A name from which supersession ends lies on no circle. -/
theorem Ends.not_circular {name : SectionName} (h : plugins.Ends name) :
    ¬ Relation.TransGen (fun name other => other ∈ plugins.superseded name)
      name name := by
  induction h with
  | intro name _ ih =>
      intro hcircle
      obtain ⟨next, hnext, hback⟩ := Relation.TransGen.head'_iff.mp hcircle
      -- the circle can be entered at its next name as well
      exact ih next hnext (Relation.TransGen.tail' hback hnext)

-- ==================================================== the path

/-- A path as the search keeps it, from its end backwards: no name lies on
it twice, and the declared names that do not lie on it are fresh. -/
structure Trail (plugins : SectionPlugins)
    (fresh path : List SectionName) : Prop where
  known : ∀ name ∈ plugins.keys, name ∈ fresh ∨ name ∈ path
  distinct : path.Nodup

/-- A path goes on with a fresh name that is not on it yet. -/
theorem Trail.cons {fresh path : List SectionName} {name : SectionName}
    (h : plugins.Trail fresh path) (hpath : name ∉ path) :
    plugins.Trail (fresh.erase name) (name :: path) := by
  refine ⟨fun other hother => ?_, List.nodup_cons.mpr ⟨hpath, h.distinct⟩⟩
  by_cases hname : other = name
  · exact Or.inr (hname ▸ List.mem_cons_self ..)
  · rcases h.known other hother with hfresh | hmem
    · exact Or.inl ((List.mem_erase_of_ne hname).mpr hfresh)
    · exact Or.inr (List.mem_cons_of_mem _ hmem)

/-- A name that is neither fresh nor on the path supersedes nothing. -/
theorem Trail.superseded_eq_nil {fresh path : List SectionName}
    {name : SectionName} (h : plugins.Trail fresh path)
    (hfresh : name ∉ fresh) (hpath : name ∉ path) :
    plugins.superseded name = [] :=
  superseded_of_not_mem_keys fun hkey =>
    (h.known name hkey).elim hfresh hpath

/-- A name that is met again on the path closes a circle: the path from
there on, and the name once more. -/
theorem Trail.circle {fresh path : List SectionName} {name : SectionName}
    (h : plugins.Trail fresh path)
    (hchain : (name :: path).IsChain plugins.Next) (hpath : name ∈ path) :
    IsCircle (fun name other => other ∈ plugins.superseded name)
      (name :: (name :: path.takeWhile (· != name)).reverse) := by
  obtain ⟨before, rest, hsplit, hnot⟩ := List.eq_append_cons_of_mem hpath
  have hbefore : path.takeWhile (· != name) = before := by
    rw [hsplit, List.takeWhile_append_of_pos, List.takeWhile_cons_of_neg,
      List.append_nil]
    · simp
    · exact fun other hother => bne_iff_ne.mpr fun heq => hnot (heq ▸ hother)
  have hshape : name :: (name :: before).reverse
      = (name :: (before ++ [name])).reverse := by simp
  rw [hbefore]
  refine ⟨by simp, by simp [List.getLast?_cons], ?_, ?_⟩
  · have hdrop : (name :: (name :: before).reverse).dropLast
        = name :: before.reverse := by
      rw [List.reverse_cons, ← List.cons_append, List.dropLast_concat]
    have hdistinct := h.distinct
    rw [hsplit] at hdistinct
    rw [hdrop, List.nodup_cons, List.mem_reverse, List.nodup_reverse]
    exact ⟨hnot, (List.nodup_append.mp hdistinct).1⟩
  · -- read backwards, the circle is the beginning of the path
    rw [hshape, List.isChain_reverse]
    refine hchain.prefix ⟨rest, ?_⟩
    rw [hsplit]
    simp

-- ==================================================== the search

/-- What the search says of some names: they are clear now, along with
those that have been clear before; or there is a circle. -/
def Answers (plugins : SectionPlugins) (clear names : List SectionName) :
    Except (List SectionName) (List SectionName) → Prop
  | .ok after =>
    (∀ name ∈ clear, name ∈ after) ∧ (∀ name ∈ names, name ∈ after)
      ∧ ∀ name ∈ after, plugins.Ends name
  | .error circle =>
    IsCircle (fun name other => other ∈ plugins.superseded name) circle

/-- What is clear already stays so. -/
theorem Answers.of_mem {clear : List SectionName} {name : SectionName}
    (hname : name ∈ clear) (hends : ∀ name ∈ clear, plugins.Ends name) :
    plugins.Answers clear [name] (.ok clear) :=
  ⟨fun _ h => h, fun _ h => List.mem_singleton.mp h ▸ hname, hends⟩

/-- A name is clear once all the names that it supersedes are. -/
theorem Answers.of_superseded {clear after : List SectionName}
    {name : SectionName}
    (h : plugins.Answers clear (plugins.superseded name) (.ok after)) :
    plugins.Answers clear [name] (.ok (name :: after)) := by
  obtain ⟨hkeep, hsuperseded, hafter⟩ := h
  refine ⟨fun other hother => List.mem_cons_of_mem _ (hkeep other hother),
    fun other hother => ?_, fun other hother => ?_⟩
  · rw [List.mem_singleton.mp hother]
    exact List.mem_cons_self ..
  · rcases List.mem_cons.mp hother with rfl | hother
    · exact Acc.intro other fun next hnext =>
        hafter next (hsuperseded next hnext)
    · exact hafter other hother

/-- The names after a name are looked at with what is clear then. -/
theorem Answers.cons {clear after rest : List SectionName}
    {name : SectionName}
    {result : Except (List SectionName) (List SectionName)}
    (hname : plugins.Answers clear [name] (.ok after))
    (hrest : plugins.Answers after rest result) :
    plugins.Answers clear (name :: rest) result := by
  cases result with
  | error circle => exact hrest
  | ok final =>
      obtain ⟨hkeep, hclear, -⟩ := hname
      obtain ⟨hlater, hmem, hfinal⟩ := hrest
      refine ⟨fun other hother => hlater other (hkeep other hother),
        fun other hother => ?_, hfinal⟩
      rcases List.mem_cons.mp hother with rfl | hother
      · exact hlater other (hclear other (List.mem_singleton_self _))
      · exact hmem other hother

/-- The search from one name and the search from several, by one induction:
each answers for its names, if it is begun at the end of a path and with
names that are clear. -/
private theorem search_and_searchAll_answer (plugins : SectionPlugins) :
    (∀ fresh path clear name, plugins.Trail fresh path →
        (name :: path).IsChain plugins.Next →
        (∀ name ∈ clear, plugins.Ends name) →
        plugins.Answers clear [name] (plugins.search fresh path clear name))
      ∧ ∀ fresh path clear names, plugins.Trail fresh path →
        (∀ name ∈ names, (name :: path).IsChain plugins.Next) →
        (∀ name ∈ clear, plugins.Ends name) →
        plugins.Answers clear names
          (plugins.searchAll fresh path clear names) := by
  apply search.mutual_induct plugins
  case case1 =>
    intro fresh path clear name hclear htrail hchain hends
    unfold search
    rw [if_pos hclear]
    exact Answers.of_mem hclear hends
  case case2 =>
    intro fresh path clear name hclear hpath htrail hchain hends
    unfold search
    rw [if_neg hclear, if_pos hpath]
    exact htrail.circle hchain hpath
  case case3 =>
    -- nothing that `name` supersedes leads to a circle
    intro fresh path clear name hclear hpath hfresh after hall ih
      htrail hchain hends
    have hdeeper := ih (htrail.cons hpath)
      (fun next hnext => List.isChain_cons_cons.mpr ⟨hnext, hchain⟩) hends
    unfold search
    rw [if_neg hclear, if_neg hpath, dif_pos hfresh]
    rw [hall] at hdeeper ⊢
    exact hdeeper.of_superseded
  case case4 =>
    -- a circle is found deeper down
    intro fresh path clear name hclear hpath hfresh circle hall ih
      htrail hchain hends
    have hdeeper := ih (htrail.cons hpath)
      (fun next hnext => List.isChain_cons_cons.mpr ⟨hnext, hchain⟩) hends
    unfold search
    rw [if_neg hclear, if_neg hpath, dif_pos hfresh]
    rw [hall] at hdeeper ⊢
    exact hdeeper
  case case5 =>
    -- `name` has no plugin
    intro fresh path clear name hclear hpath hfresh htrail hchain hends
    have hnone : plugins.superseded name = [] :=
      htrail.superseded_eq_nil hfresh hpath
    have hall : plugins.Answers clear (plugins.superseded name) (.ok clear) :=
      ⟨fun _ h => h, fun _ h => (by rw [hnone] at h; cases h), hends⟩
    unfold search
    rw [if_neg hclear, if_neg hpath, dif_neg hfresh]
    exact hall.of_superseded
  case case6 =>
    intro fresh path clear htrail hchains hends
    unfold searchAll
    exact ⟨fun _ h => h, fun _ h => (by cases h), hends⟩
  case case7 =>
    intro fresh path clear name rest after hfirst ihfirst ihrest
      htrail hchains hends
    have hname := ihfirst htrail (hchains name (List.mem_cons_self ..)) hends
    rw [hfirst] at hname
    have hrest := ihrest htrail
      (fun other hother => hchains other (List.mem_cons_of_mem _ hother))
      hname.2.2
    unfold searchAll
    rw [hfirst]
    exact hname.cons hrest
  case case8 =>
    intro fresh path clear name rest circle hfirst ihfirst
      htrail hchains hends
    have hname := ihfirst htrail (hchains name (List.mem_cons_self ..)) hends
    unfold searchAll
    rw [hfirst] at hname ⊢
    exact hname

/-- The search from all declared names, of which none is on a path and none
is clear at the beginning. -/
private theorem searchAll_answers (plugins : SectionPlugins) :
    plugins.Answers [] plugins.keys
      (plugins.searchAll plugins.keys [] [] plugins.keys) :=
  (search_and_searchAll_answer plugins).2 _ _ _ _
    ⟨fun _ h => Or.inl h, List.nodup_nil⟩
    (fun _ _ => List.isChain_singleton _) (fun _ h => (by cases h))

/-- What is reported is a circle. -/
theorem isCircle_of_circle? {circle : List SectionName}
    (h : plugins.circle? = some circle) :
    IsCircle (fun name other => other ∈ plugins.superseded name) circle := by
  have hanswer := searchAll_answers plugins
  unfold circle? at h
  cases hresult : plugins.searchAll plugins.keys [] [] plugins.keys with
  | ok clear =>
      rw [hresult] at h
      cases h
  | error found =>
      rw [hresult] at h hanswer
      cases h
      exact hanswer

/-- If nothing is reported, supersession ends from every name. -/
theorem ends_of_circle? (h : plugins.circle? = none) (name : SectionName) :
    plugins.Ends name := by
  have hanswer := searchAll_answers plugins
  unfold circle? at h
  cases hresult : plugins.searchAll plugins.keys [] [] plugins.keys with
  | error circle =>
      rw [hresult] at h
      cases h
  | ok clear =>
      rw [hresult] at hanswer
      obtain ⟨-, hkeys, hends⟩ := hanswer
      by_cases hname : name ∈ plugins.keys
      · exact hends name (hkeys name hname)
      · refine Acc.intro name fun next hnext => ?_
        unfold Next at hnext
        rw [superseded_of_not_mem_keys hname] at hnext
        cases hnext

end SectionPlugins

-- ==================================================== catalogs

namespace SectionCatalog

open SectionPlugin (Supersedes)

variable {plugins : List SectionPlugin}

/-- The declared plugins by name. -/
private theorem get?_declared (plugins : List SectionPlugin)
    (name : SectionName) :
    (SortedMap.ofList (plugins.map fun p => (p.name, p))).get? name
      = SectionPlugin.declared? plugins name := by
  unfold SectionPlugin.declared?
  rw [SortedMap.get?_ofList, ← List.map_reverse, List.find?_map,
    Option.map_map]
  exact Option.map_id'

/-- Supersession as the search follows it is that of the declared plugins. -/
private theorem mem_superseded_declared {name other : SectionName} :
    other ∈ SectionPlugins.superseded
        (SortedMap.ofList (plugins.map fun p => (p.name, p))) name
      ↔ Supersedes plugins name other := by
  rw [SectionPlugins.mem_superseded, get?_declared]
  exact Iff.rfl

/-- A refusal reports a circle of supersession. -/
theorem isCircle_of_error {circle : List SectionName}
    (h : ofList plugins = .error circle) :
    IsCircle (Supersedes plugins) circle := by
  unfold ofList at h
  simp only at h
  split at h
  case h_1 found hfound =>
    cases h
    have hcircle := SectionPlugins.isCircle_of_circle? hfound
    simpa only [mem_superseded_declared] using hcircle
  case h_2 => cases h

/-- The plugins of a catalog are the declared ones, and there is no circle
of supersession among them. -/
theorem of_ok {catalog : SectionCatalog} (h : ofList plugins = .ok catalog) :
    (∀ name, catalog.get? name = SectionPlugin.declared? plugins name)
      ∧ ∀ name, ¬ Relation.TransGen (Supersedes plugins) name name := by
  unfold ofList at h
  simp only at h
  split at h
  case h_1 => cases h
  case h_2 hnone =>
    cases h
    refine ⟨get?_declared plugins, fun name => ?_⟩
    have hends := (SectionPlugins.ends_of_circle? hnone name).not_circular
    simpa only [mem_superseded_declared] using hends

/-- The plugins that supersede a section, read off the catalog. -/
theorem mem_supersedersOf {catalog : SectionCatalog}
    {name superseder : SectionName} :
    superseder ∈ catalog.supersedersOf name
      ↔ ∃ plugin, catalog.get? superseder = some plugin
          ∧ name ∈ plugin.supersedes := by
  unfold supersedersOf get?
  rw [SortedMap.mem_keys]
  simp only [SortedMap.get?_filter, Option.filter_eq_some_iff,
    List.contains_iff_mem]

/-- The superseders in a catalog are the declared plugins that supersede. -/
theorem mem_supersedersOf_of_ok {catalog : SectionCatalog}
    (h : ofList plugins = .ok catalog) {name superseder : SectionName} :
    superseder ∈ catalog.supersedersOf name
      ↔ Supersedes plugins superseder name := by
  rw [mem_supersedersOf, (of_ok h).1]
  exact Iff.rfl

-- ==================================================== the main statement

/-- A list of plugins is refused exactly if the supersession that it declares
runs in a circle. A refusal reports such a circle; otherwise the superseders
of a section are the declared plugins that supersede it. -/
theorem refused_iff_circular (plugins : List SectionPlugin) :
    ((∃ circle, ofList plugins = .error circle)
        ↔ ∃ name, Relation.TransGen (Supersedes plugins) name name)
      ∧ (∀ circle, ofList plugins = .error circle →
          IsCircle (Supersedes plugins) circle)
      ∧ ∀ catalog, ofList plugins = .ok catalog →
          ∀ name superseder, superseder ∈ catalog.supersedersOf name
            ↔ Supersedes plugins superseder name := by
  refine ⟨⟨?_, ?_⟩, fun circle h => isCircle_of_error h,
    fun catalog h name superseder => mem_supersedersOf_of_ok h⟩
  · rintro ⟨circle, h⟩
    exact (isCircle_of_error h).circular
  · rintro ⟨name, hcircular⟩
    cases hresult : ofList plugins with
    | error circle => exact ⟨circle, rfl⟩
    | ok catalog => exact absurd hcircular ((of_ok hresult).2 name)

-- a circle that does not lead through the name from which it is found
example :
    (match ofList
        [{ SectionPlugin.trivial "a" with supersedes := ["b"] },
          { SectionPlugin.trivial "b" with supersedes := ["c"] },
          { SectionPlugin.trivial "c" with supersedes := ["b", "d"] }] with
      | .error circle => circle
      | .ok _ => []) = ["b", "c", "b"] := by cbv

end SectionCatalog

end HostWatch
