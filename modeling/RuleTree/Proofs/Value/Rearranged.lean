import RuleTree.Proofs.Value.Contents
/-! # Orders of insertion

    Two values are rearranged if they differ only in the orders of the
    fields of objects, the members of sets and the entries of maps, at any
    depth.  Without not-a-number they have the same contents
    (`sameContents_of_rearranged`). -/

namespace RuleTree.Value

/-- Equal up to the orders of fields, members and entries at any depth. -/
inductive Rearranged : Value → Value → Prop where
  | same (v : Value) : Rearranged v v
  | array {vs ws : List Value} (h : List.Forall₂ Rearranged vs ws) :
      Rearranged (.array vs) (.array ws)
  | object {fs fs' gs : Fields Value} (hperm : fs.Perm fs')
      (hkeys : Fields.keys fs' = Fields.keys gs)
      (h : List.Forall₂ Rearranged (fs'.map Prod.snd) (gs.map Prod.snd)) :
      Rearranged (.object fs) (.object gs)
  | set {vs vs' ws : List Value} (hperm : vs.Perm vs') (h : List.Forall₂ Rearranged vs' ws) :
      Rearranged (.set vs) (.set ws)
  | map {es es' ds : List (Value × Value)} (hperm : es.Perm es')
      (hk : List.Forall₂ Rearranged (es'.map Prod.fst) (ds.map Prod.fst))
      (hv : List.Forall₂ Rearranged (es'.map Prod.snd) (ds.map Prod.snd)) :
      Rearranged (.map es) (.map ds)

/-- **The order of insertion does not count for contents**, by induction on
    the parts. -/
theorem sameContents_of_rearranged {v w : Value} (hn : v.NaNFree) (hw : v.WellKeyed)
    (h : Rearranged v w) : SameContents v w := by
  induction v using part_induction generalizing w with
  | h v ih =>
      have hparts : ∀ a ∈ v.parts, ∀ b, Rearranged a b → SameContents a b := by
        rw [nanFree_iff] at hn
        rw [wellKeyed_iff] at hw
        exact fun a ha b => ih a ha (hn.2 a ha) (hw.2 a ha)
      rw [sameContents_iff]
      cases h with
      | same => exact sameContents_iff.mp (.refl hn hw)
      | array hvs =>
          have hboth := (List.forall₂_and_left _ _).mpr ⟨hparts, hvs⟩
          exact .array (hboth.imp fun a b hab => hab.1 b hab.2)
      | @object fs fs' gs hperm hkeys hvs =>
          -- after the permutation, fields of one name stand side by side
          have hfields : List.Forall₂ (fun f g => f.1 = g.1 ∧ Rearranged f.2 g.2) fs' gs := by
            refine forall₂_pairs ?_ hvs
            rw [List.forall₂_eq_eq_eq]
            exact hkeys
          have hnodup : (Fields.keys fs).Nodup := (wellKeyed_iff.mp hw).1
          have hnodup' : (Fields.keys gs).Nodup := by
            rw [← hkeys]
            exact (hperm.map Prod.fst).nodup_iff.mp hnodup
          refine .object (hperm.length_eq.trans hfields.length_eq) ?_ ?_
          · intro f hf
            obtain ⟨g, hg, hname, hR⟩ := exists_related_of_mem hfields (hperm.mem_iff.mp hf)
            refine ⟨g.2, ?_, hparts f.2 (List.mem_map_of_mem hf) g.2 hR⟩
            rw [hname]
            exact Fields.get?_eq_of_mem hnodup' hg
          · intro g hg
            obtain ⟨f, hf, hname, hR⟩ := exists_related_of_mem hfields.flip hg
            have hf' : f ∈ fs := hperm.mem_iff.mpr hf
            refine ⟨f.2, ?_, hparts f.2 (List.mem_map_of_mem hf') g.2 hR⟩
            rw [← hname]
            exact Fields.get?_eq_of_mem hnodup hf'
      | @set vs vs' ws hperm hvs =>
          refine .set (hperm.length_eq.trans hvs.length_eq) ?_ ?_
          · intro a ha
            obtain ⟨b, hb, hR⟩ := exists_related_of_mem hvs (hperm.mem_iff.mp ha)
            exact ⟨b, hb, hparts a ha b hR⟩
          · intro b hb
            obtain ⟨a, ha, hR⟩ := exists_related_of_mem hvs.flip hb
            have ha' := hperm.mem_iff.mpr ha
            exact ⟨a, ha', hparts a ha' b hR⟩
      | @map es es' ds hperm hk hv =>
          have hentries := forall₂_pairs hk hv
          have hentry : ∀ e ∈ es, ∀ d : Value × Value,
              Rearranged e.1 d.1 ∧ Rearranged e.2 d.2 →
                SameContents e.1 d.1 ∧ SameContents e.2 d.2 := by
            intro e he d hd
            exact ⟨hparts e.1 (fst_mem_parts he) d.1 hd.1, hparts e.2 (snd_mem_parts he) d.2 hd.2⟩
          refine .map (hperm.length_eq.trans hentries.length_eq) ?_ ?_
          · intro e he
            obtain ⟨d, hd, hR⟩ := exists_related_of_mem hentries (hperm.mem_iff.mp he)
            exact ⟨d, hd, hentry e he d hR⟩
          · intro d hd
            obtain ⟨e, he, hR⟩ := exists_related_of_mem hentries.flip hd
            have he' := hperm.mem_iff.mpr he
            exact ⟨e, he', hentry e he' d hR⟩

end RuleTree.Value
