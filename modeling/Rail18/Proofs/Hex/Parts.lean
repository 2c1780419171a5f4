import Rail18.Proofs.Hex.Features
import Rail18.Proofs.Text.Numerals

/-!
# Reading the text of a feature back

The text of a place, a path or a terrain is split into its parts at the commas, and the parts into their
items. Parts that may be missing are told from one another by their first characters.
-/

namespace Rail18

open Text (Avoids intercalate_injective mem_toList_map toList_map_injective)

/-- The characters that separate the parts of an encoding. -/
def separators : List Char := [';', ',', '|', '+']

/-! ### Parts -/

theorem mem_flagPart {text s : String} {flag : Bool} (h : s ∈ flagPart text flag) : s = text := by
  cases flag with
  | false => cases h
  | true => exact List.mem_singleton.mp h

theorem flagPart_injective {text : String} {a b : Bool} (h : flagPart text a = flagPart text b) :
    a = b := by
  cases a with
  | false =>
      cases b with
      | false => rfl
      | true => cases h
  | true =>
      cases b with
      | false => cases h
      | true => rfl

section ListPart

variable {lead separator : String} {a b : List String}

theorem mem_listPart {s : String} (h : s ∈ listPart lead separator a) :
    a ≠ [] ∧ s = lead ++ separator.intercalate a := by
  by_cases hnil : a = []
  · rw [listPart, if_pos hnil] at h
    cases h
  · rw [listPart, if_neg hnil] at h
    exact ⟨hnil, List.mem_singleton.mp h⟩

theorem listPart_injective {c : Char} (hseparator : separator.toList = [c])
    (ha : ∀ s ∈ a, c ∉ s.toList) (hb : ∀ s ∈ b, c ∉ s.toList)
    (h : listPart lead separator a = listPart lead separator b) : a = b := by
  unfold listPart at h
  by_cases hnil : a = []
  · by_cases hnil' : b = []
    · rw [hnil, hnil']
    · rw [if_pos hnil, if_neg hnil'] at h
      cases h
  · by_cases hnil' : b = []
    · rw [if_neg hnil, if_pos hnil'] at h
      cases h
    · rw [if_neg hnil, if_neg hnil'] at h
      have htexts := (String.append_right_inj lead).mp (List.singleton_inj.mp h)
      exact intercalate_injective separator hseparator ha hb (by simp [hnil, hnil']) htexts

end ListPart

section Joined

variable {l m : List String}

theorem avoids_join (hl : ∀ s ∈ l, Avoids [';', ','] s) : Avoids [';'] (",".intercalate l) :=
  .intercalate (by simp [Avoids]) fun s hs => (hl s hs).mono (by simp)

theorem join_injective (hl : ∀ s ∈ l, Avoids [';', ','] s) (hm : ∀ s ∈ m, Avoids [';', ','] s)
    (hnil : l ≠ []) (hnil' : m ≠ []) (h : ",".intercalate l = ",".intercalate m) : l = m :=
  intercalate_injective "," rfl (fun s hs => hl s hs ',' (by simp)) (fun s hs => hm s hs ',' (by simp))
    (by simp [hnil, hnil']) h

end Joined

/-! ### Places -/

/-- The texts of a place have no separators, and its revenue none but those of its own parts. -/
structure PayingPlace.Plain (place : PayingPlace) : Prop where
  revenue : Avoids [';', ','] place.revenue
  groups : ∀ group ∈ place.groups, Avoids separators group

namespace PayingPlace

variable {a b : PayingPlace}

theorem ofText_part (place : PayingPlace) :
    ∀ kind, ∀ s ∈ place.part kind, PartKind.ofText s = kind := by
  intro kind s hs
  cases kind with
  | hide =>
      rw [mem_flagPart hs]
      rfl
  | slots =>
      obtain ⟨size, -, rfl⟩ := mem_toList_map hs
      simp [PartKind.ofText]
  | groups =>
      rw [(mem_listPart hs).2]
      simp [PartKind.ofText]
  | cost | kinds => cases hs

theorem avoids_parts {kind : String} (hkind : Avoids [';', ','] kind) {place : PayingPlace}
    (h : place.Plain) : ∀ s ∈ place.parts kind, Avoids [';', ','] s := by
  intro s hs
  rcases List.mem_cons.mp hs with rfl | hs
  · exact hkind.append h.revenue
  · obtain ⟨part, -, hs⟩ := List.mem_flatMap.mp hs
    cases part with
    | hide =>
        rw [mem_flagPart hs]
        simp [Avoids]
    | slots =>
        obtain ⟨size, -, rfl⟩ := mem_toList_map hs
        exact Avoids.append (by simp [Avoids]) (Text.avoids_toString_natural (by simp) size)
    | groups =>
        rw [(mem_listPart hs).2]
        refine Avoids.append (by simp [Avoids]) (.intercalate (by simp [Avoids]) fun group hgroup => ?_)
        exact (h.groups group hgroup).mono (by simp [separators])
    | cost | kinds => cases hs

theorem avoids_text {kind : String} (hkind : Avoids [';', ','] kind) {place : PayingPlace}
    (h : place.Plain) : Avoids [';'] (place.text kind) :=
  avoids_join (avoids_parts hkind h)

theorem text_injective {kind : String} (hkind : Avoids [';', ','] kind) (ha : a.Plain) (hb : b.Plain)
    (h : a.text kind = b.text kind) : a = b := by
  have hparts := join_injective (avoids_parts hkind ha) (avoids_parts hkind hb)
    (List.cons_ne_nil _ _) (List.cons_ne_nil _ _) h
  obtain ⟨hhead, hparts⟩ := List.cons.inj hparts
  have hpart := Text.flatMap_mark_injective PartKind.ofText a.ofText_part b.ofText_part
    (by decide) hparts
  have hrevenue : a.revenue = b.revenue := (String.append_right_inj kind).mp hhead
  have hhidden : a.hidden = b.hidden := flagPart_injective (hpart .hide (by simp))
  have hslots : a.slots = b.slots :=
    toList_map_injective (fun _ _ _ _ htext =>
      Text.toString_natural_injective ((String.append_right_inj "slots:").mp htext)) (hpart .slots (by simp))
  have hgroups : a.groups = b.groups :=
    listPart_injective rfl (fun group hgroup => ha.groups group hgroup '|' (by simp [separators]))
      (fun group hgroup => hb.groups group hgroup '|' (by simp [separators])) (hpart .groups (by simp))
  cases a
  cases b
  simp_all

end PayingPlace

/-! ### Paths -/

theorem avoids_render_pathEnd {marks : List Char} (hmarks : ∀ c ∈ marks, ¬ c.isDigit ∧ c ≠ '-' ∧ c ≠ '_')
    (e : PathEnd) : Avoids marks e.render := by
  cases e with
  | side index =>
      exact Text.avoids_toString_integer (fun c hc => ⟨(hmarks c hc).1, (hmarks c hc).2.1⟩) index
  | node index =>
      have hnode : Avoids marks "_" := by
        intro c hc hmem
        exact (hmarks c hc).2.2 (List.mem_singleton.mp hmem)
      exact hnode.append (Text.avoids_toString_natural (fun c hc => (hmarks c hc).1) index)

/-- A side is written as a number and a node with an underscore before it. -/
theorem render_pathEnd_injective {a b : PathEnd} (h : a.render = b.render) : a = b := by
  have hside (index : Int) : '_' ∉ (PathEnd.side index).render.toList := by
    have havoid : Avoids ['_'] (toString index) := Text.avoids_toString_integer (by simp) index
    exact havoid '_' (by simp)
  have hnode (index : Nat) : '_' ∈ (PathEnd.node index).render.toList := by
    simp [PathEnd.render]
  cases a with
  | side i =>
      cases b with
      | side j => rw [Text.toString_integer_injective h]
      | node j => exact absurd (h ▸ hnode j) (hside i)
  | node i =>
      cases b with
      | side j => exact absurd (h ▸ hnode i) (hside j)
      | node j => rw [Text.toString_natural_injective ((String.append_right_inj "_").mp h)]

theorem avoids_pathParts {path : PathEnd × PathEnd × Option String}
    (hgauge : ∀ gauge ∈ path.2.2, Avoids separators gauge) :
    ∀ s ∈ pathParts path, Avoids [';', ','] s := by
  have hends (e : PathEnd) : Avoids [';', ','] e.render := avoids_render_pathEnd (by simp) e
  intro s hs
  rcases List.mem_cons.mp hs with rfl | hs
  · exact Avoids.append (by simp [Avoids]) (hends _)
  · rcases List.mem_cons.mp hs with rfl | hs
    · exact Avoids.append (by simp [Avoids]) (hends _)
    · obtain ⟨gauge, hmem, rfl⟩ := mem_toList_map hs
      exact Avoids.append (by simp [Avoids]) ((hgauge gauge hmem).mono (by simp [separators]))

theorem pathText_injective {a b : PathEnd × PathEnd × Option String}
    (ha : ∀ gauge ∈ a.2.2, Avoids separators gauge) (hb : ∀ gauge ∈ b.2.2, Avoids separators gauge)
    (h : pathText a = pathText b) : a = b := by
  have hparts := join_injective (avoids_pathParts ha) (avoids_pathParts hb)
    (List.cons_ne_nil _ _) (List.cons_ne_nil _ _) h
  obtain ⟨hfirst, hparts⟩ := List.cons.inj hparts
  obtain ⟨hsecond, hgauge⟩ := List.cons.inj hparts
  have hfirst := render_pathEnd_injective ((String.append_right_inj _).mp hfirst)
  have hsecond := render_pathEnd_injective ((String.append_right_inj _).mp hsecond)
  have hgauge := toList_map_injective (fun _ _ _ _ htext => (String.append_right_inj _).mp htext) hgauge
  exact Prod.ext hfirst (Prod.ext hsecond hgauge)

/-! ### Terrain -/

section Terrain

variable {cost cost' : Option String} {kinds kinds' : List String}

theorem ofText_terrainPart (cost : Option String) (kinds : List String) :
    ∀ kind, ∀ s ∈ terrainPart cost kinds kind, PartKind.ofText s = kind := by
  intro kind s hs
  cases kind with
  | cost =>
      obtain ⟨amount, -, rfl⟩ := mem_toList_map hs
      simp [PartKind.ofText]
  | kinds =>
      rw [(mem_listPart hs).2]
      simp [PartKind.ofText]
  | hide | slots | groups => cases hs

theorem avoids_terrainParts (hcost : ∀ amount ∈ cost, Avoids separators amount)
    (hkinds : ∀ kind ∈ kinds, Avoids separators kind) :
    ∀ s ∈ terrainParts cost kinds, Avoids [';', ','] s := by
  intro s hs
  obtain ⟨part, hpart, hs⟩ := List.mem_flatMap.mp hs
  cases part with
  | cost =>
      obtain ⟨amount, hamount, rfl⟩ := mem_toList_map hs
      exact Avoids.append (by simp [Avoids]) ((hcost amount hamount).mono (by simp [separators]))
  | kinds =>
      rw [(mem_listPart hs).2]
      refine Avoids.append (by simp [Avoids]) (.intercalate (by simp [Avoids]) fun kind hkind => ?_)
      exact (hkinds kind hkind).mono (by simp [separators])
  | hide | slots | groups => cases hs

theorem terrainTexts_injective (hcost : ∀ amount ∈ cost, Avoids separators amount)
    (hkinds : ∀ kind ∈ kinds, Avoids separators kind)
    (hcost' : ∀ amount ∈ cost', Avoids separators amount)
    (hkinds' : ∀ kind ∈ kinds', Avoids separators kind)
    (h : terrainTexts cost kinds = terrainTexts cost' kinds') : cost = cost' ∧ kinds = kinds' := by
  have hparts : terrainParts cost kinds = terrainParts cost' kinds' :=
    listPart_injective rfl (fun part hpart => avoids_terrainParts hcost hkinds part hpart ',' (by simp))
      (fun part hpart => avoids_terrainParts hcost' hkinds' part hpart ',' (by simp)) h
  have hpart := Text.flatMap_mark_injective PartKind.ofText (ofText_terrainPart cost kinds)
    (ofText_terrainPart cost' kinds') (by decide) hparts
  refine ⟨?_, ?_⟩
  · exact toList_map_injective (fun _ _ _ _ htext => (String.append_right_inj _).mp htext)
      (hpart .cost (by simp))
  · exact listPart_injective rfl (fun kind hkind => hkinds kind hkind '+' (by simp [separators]))
      (fun kind hkind => hkinds' kind hkind '+' (by simp [separators])) (hpart .kinds (by simp))

end Terrain

end Rail18
