/-
Which configuration the data of a source comes from.

When its data is asked for, a source is known by the host that the data is of
and by its tag, and by nothing else: neither by its place in the list nor by
whether it is the management board. So of all sources that share the two, each
is read as the last of them is configured (`fetch_sourceFor`), and a source is
read by its own configuration exactly if that one says the same.

Nothing keeps a configuration from using one tag twice. The host and its
management board do not get into each other's way as long as their tags differ
(`unambiguous_of_nodup`), and where they do not, the data of one is delivered
as that of the other (`shared_tag_crosses_sources`).
-/
import HostWatch.Fetch.Read
import Mathlib.Data.List.Forall2
import Mathlib.Data.List.Nodup

namespace HostWatch

/-- What a source of some kind delivers: that it has no data is an error. -/
def SourceKind.delivered (read : SourceReader) (kind : SourceKind) :
    Except FetchError ByteArray :=
  match read kind with
  | .error e => .error e
  | .ok data => if data.isEmpty then .error .emptyOutput else .ok data

/-- What identifies a source when its data is asked for. -/
def SourceConfig.identity (c : SourceConfig) (host : HostName) :
    HostName × String := (c.hostFor host, c.ident)

namespace Fetcher

variable {f : Fetcher} {read : SourceReader} {c last : SourceConfig}

-- ==================================================== the last one counts

/-- A configuration is the last one with the identity of another one. -/
def IsLastFor (f : Fetcher) (c last : SourceConfig) : Prop :=
  ∃ before after, f.configs = before ++ last :: after
    ∧ last.identity f.host = c.identity f.host
    ∧ ∀ other ∈ after, other.identity f.host ≠ c.identity f.host

namespace IsLastFor

theorem mem (h : f.IsLastFor c last) : last ∈ f.configs := by
  obtain ⟨before, after, hconfigs, -⟩ := h
  rw [hconfigs]
  exact List.mem_append_right _ (List.mem_cons_self ..)

theorem identity_eq (h : f.IsLastFor c last) :
    last.identity f.host = c.identity f.host := by
  obtain ⟨_, _, -, hsame, -⟩ := h
  exact hsame

theorem congr {c' : SourceConfig} (h : f.IsLastFor c last)
    (hsame : c.identity f.host = c'.identity f.host) : f.IsLastFor c' last := by
  unfold IsLastFor at h ⊢
  rwa [← hsame]

end IsLastFor

/-- The kind of a source is that of the last configuration with its
identity. -/
theorem kindOf?_sourceFor {kind : SourceKind} :
    f.kindOf? (c.sourceFor f.host) = some kind
      ↔ ∃ last, f.IsLastFor c last ∧ last.kind = kind := by
  have hidentity : ∀ other : SourceConfig,
      (other.hostFor f.host == (c.sourceFor f.host).host
        && other.ident == (c.sourceFor f.host).ident) = true
        ↔ other.identity f.host = c.identity f.host := by
    intro other
    rw [Bool.and_eq_true, beq_iff_eq, beq_iff_eq]
    exact Prod.mk.injEq .. ▸ Iff.rfl
  unfold kindOf? IsLastFor
  simp only [Option.map_eq_some_iff, List.find?_eq_some_iff_append, hidentity,
    Bool.not_eq_true', Bool.eq_false_iff, ne_eq]
  constructor
  · rintro ⟨last, ⟨hlast, after, before, hsplit, hafter⟩, rfl⟩
    have hconfigs := congrArg List.reverse hsplit
    rw [List.reverse_reverse, List.reverse_append, List.reverse_cons,
      List.append_assoc, List.singleton_append] at hconfigs
    exact ⟨last, ⟨_, _, hconfigs, hlast,
      fun other hother => hafter other (List.mem_reverse.mp hother)⟩, rfl⟩
  · rintro ⟨last, ⟨before, after, hconfigs, hlast, hafter⟩, rfl⟩
    refine ⟨last, ⟨hlast, after.reverse, before.reverse, ?_,
      fun other hother => hafter other (List.mem_reverse.mp hother)⟩, rfl⟩
    rw [hconfigs, List.reverse_append, List.reverse_cons, List.append_assoc,
      List.singleton_append]

/-- For every configured source there is a last configuration. -/
theorem exists_isLastFor (hc : c ∈ f.configs) : ∃ last, f.IsLastFor c last := by
  cases hkind : f.kindOf? (c.sourceFor f.host) with
  | some kind =>
      obtain ⟨last, hlast, -⟩ := kindOf?_sourceFor.mp hkind
      exact ⟨last, hlast⟩
  | none =>
      -- the search passes the source itself
      unfold kindOf? at hkind
      rw [Option.map_eq_none_iff, List.find?_eq_none] at hkind
      have hself := hkind c (List.mem_reverse.mpr hc)
      rw [Bool.and_eq_true, beq_iff_eq, beq_iff_eq] at hself
      exact absurd ⟨rfl, rfl⟩ hself

/-- A source is read as the last configuration with its identity says. -/
theorem fetch_sourceFor (hlast : f.IsLastFor c last) :
    f.fetch read (c.sourceFor f.host) = last.kind.delivered read := by
  unfold fetch
  rw [kindOf?_sourceFor.mpr ⟨last, hlast, rfl⟩]
  rfl

-- ==================================================== own configurations

/-- Configurations with one identity say the same of how to read. -/
def Unambiguous (f : Fetcher) : Prop :=
  ∀ c ∈ f.configs, ∀ c' ∈ f.configs,
    c.identity f.host = c'.identity f.host → c.kind = c'.kind

/-- Where all sources have an identity of their own, none is mistaken. -/
theorem unambiguous_of_nodup
    (h : (f.configs.map (·.identity f.host)).Nodup) : f.Unambiguous :=
  fun _ hc _ hc' hsame => congrArg _ (List.inj_on_of_nodup_map h hc hc' hsame)

/-- Two kinds from which the same is delivered, whatever they come to, are
one. -/
theorem eq_of_delivered {kind kind' : SourceKind}
    (h : ∀ read, kind.delivered read = kind'.delivered read) : kind = kind' := by
  -- only the first kind can be reached
  have hreached := h fun other =>
    if other = kind then .error .emptyOutput else .error (.timeout 0)
  unfold SourceKind.delivered at hreached
  simp only [if_true] at hreached
  by_contra hne
  rw [if_neg (Ne.symm hne)] at hreached
  cases hreached

/-- What is fetched from the configured sources, in their order. -/
theorem fetchAll_sources (f : Fetcher) (read : SourceReader) :
    f.fetchAll read f.sources = f.configs.map fun c =>
      (c.sourceFor f.host, f.fetch read (c.sourceFor f.host)) := by
  unfold fetchAll sources
  rw [List.map_map]
  rfl

/-- From each configured source there is one result, in the order of the
configuration: what the last source with its host and its tag delivers. These
are the results of the sources' own configurations, whatever files and programs
come to, exactly if no two sources share host and tag and are read in different
ways. -/
theorem own_configuration_iff (f : Fetcher) :
    (∀ read : SourceReader, List.Forall₂
        (fun c fetched => fetched.1 = c.sourceFor f.host
          ∧ ∃ last, f.IsLastFor c last
            ∧ fetched.2 = last.kind.delivered read)
        f.configs (f.fetchAll read f.sources))
      ∧ ((∀ read : SourceReader, f.fetchAll read f.sources
          = f.configs.map fun c =>
            (c.sourceFor f.host, c.kind.delivered read))
        ↔ f.Unambiguous) := by
  simp only [fetchAll_sources, List.forall₂_map_right_iff, List.forall₂_same,
    List.map_inj_left, Prod.mk.injEq, true_and]
  refine ⟨fun read c hc => ?_, fun hown => ?_, fun hunambiguous read c hc => ?_⟩
  · obtain ⟨last, hlast⟩ := exists_isLastFor hc
    exact ⟨last, hlast, fetch_sourceFor hlast⟩
  · -- two sources with one identity have one last configuration
    intro c hc c' hc' hsame
    obtain ⟨last, hlast⟩ := exists_isLastFor hc
    have hlast' : f.IsLastFor c' last := hlast.congr hsame
    have hkind : ∀ {c}, c ∈ f.configs → f.IsLastFor c last →
        c.kind = last.kind := fun hc hlast =>
      eq_of_delivered fun read =>
        (hown read _ hc).symm.trans (fetch_sourceFor hlast)
    exact (hkind hc hlast).trans (hkind hc' hlast').symm
  · obtain ⟨last, hlast⟩ := exists_isLastFor hc
    rw [fetch_sourceFor hlast,
      hunambiguous last hlast.mem c hc hlast.identity_eq]

/-- A host and its management board have different tags. -/
example : Unambiguous
    ⟨"alpha", [{ ident := "agent", kind := .file "host.txt" },
      { ident := "board", management := true, kind := .file "board.txt" }]⟩ :=
  unambiguous_of_nodup (by decide)

/-- A host and its management board, each with a file of its own and with the
same tag. -/
def sharedTag : Fetcher where
  host := "alpha"
  configs := [{ ident := "agent", kind := .file "host.txt" },
    { ident := "agent", management := true, kind := .file "board.txt" }]

/-- What is delivered as the host's data is that of its management board. -/
theorem shared_tag_crosses_sources :
    let content (text : String) : DiskNode := .file text.toUTF8
    let disk : Disk := ⟨.ofList [("host.txt", content "<<<load>>>\n1\n"),
      ("board.txt", content "<<<fan>>>\n2\n")]⟩
    let read := SourceKind.read disk fun _ _ => .error "none"
    let board := "<<<fan>>>\n2\n".toUTF8
    (sharedTag.fetchAll read sharedTag.sources).map (·.2)
        = [.ok board, .ok board]
      ∧ sharedTag.configs.map (·.kind.delivered read)
        = [.ok "<<<load>>>\n1\n".toUTF8, .ok board]
      ∧ sharedTag.fetchAll read sharedTag.sources
        ≠ sharedTag.configs.map fun c =>
          (c.sourceFor sharedTag.host, c.kind.delivered read) := by
  intro content disk read board
  have hfetched : (sharedTag.fetchAll read sharedTag.sources).map (·.2)
      = [.ok board, .ok board] := by decide +kernel
  have hown : sharedTag.configs.map (·.kind.delivered read)
      = [.ok "<<<load>>>\n1\n".toUTF8, .ok board] := by decide +kernel
  refine ⟨hfetched, hown, fun hall => ?_⟩
  have hsame := congrArg (List.map (·.2)) hall
  rw [hfetched, List.map_map] at hsame
  have hcrossed := hsame.trans hown
  revert hcrossed
  decide +kernel

end Fetcher

end HostWatch
