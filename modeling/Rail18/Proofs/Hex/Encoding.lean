import Rail18.Proofs.Game.HexTable
import Rail18.Proofs.Hex.Parts

/-!
# Reading an encoding back

Where no free text of a hex has a character that separates the parts of an encoding, the encoding
can be split again into the texts of the features. These are told from one another by their first
characters, so the features of the hex can be read off its encoding.
-/

namespace Rail18

open Text (Avoids intercalate_injective map_eq_map_injective mem_toList_map toList_map_injective)

/-! ### Features -/

/-- The first characters of the texts of a kind. -/
def FeatureKind.leads : FeatureKind → List String
  | junction => ["junction"]
  | offboard => ["offboard=revenue:"]
  | city => ["city=revenue:"]
  | town => ["town=revenue:"]
  | path => ["path=a:"]
  | label => ["label="]
  | terrain => ["upgrade=cost:", "terrain:"]
  | border => ["border=edge:"]

theorem FeatureKind.ofText_lead (kind : FeatureKind) :
    ∀ lead ∈ kind.leads, ∀ tail, FeatureKind.ofText (lead ++ tail) = kind := by
  intro lead hlead tail
  cases kind <;> simp only [leads, List.mem_cons, List.not_mem_nil, or_false] at hlead
  case terrain =>
    rcases hlead with rfl | rfl
    · simp [FeatureKind.ofText]
    · simp [FeatureKind.ofText]
  all_goals
    subst hlead
    simp [FeatureKind.ofText]

theorem FeatureKind.append_lead_ne_empty (kind : FeatureKind) :
    ∀ lead ∈ kind.leads, ∀ tail, lead ++ tail ≠ "" := by
  intro lead hlead tail hempty
  have hnil : lead.toList = [] := by
    have hlist := congrArg String.toList hempty
    rw [String.toList_append, String.toList_empty, List.append_eq_nil_iff] at hlist
    exact hlist.1
  revert lead
  cases kind <;> simp [leads]

theorem exists_lead_terrainTexts {cost : Option String} {kinds : List String} :
    ∀ s ∈ terrainTexts cost kinds, ∃ lead ∈ FeatureKind.terrain.leads, ∃ tail, s = lead ++ tail := by
  intro s hs
  obtain ⟨hne, rfl⟩ := mem_listPart hs
  obtain ⟨first, rest, hparts⟩ := List.exists_cons_of_ne_nil hne
  obtain ⟨tail, htail⟩ := Text.exists_intercalate_cons_eq "," first rest
  have hfirst : first ∈ terrainParts cost kinds := hparts ▸ List.mem_cons_self
  rw [hparts, htail, String.empty_append]
  obtain ⟨part, -, hfirst⟩ := List.mem_flatMap.mp hfirst
  cases part with
  | cost =>
      obtain ⟨amount, -, rfl⟩ := mem_toList_map hfirst
      exact ⟨_, List.mem_cons_self, _, String.append_assoc ..⟩
  | kinds =>
      rw [(mem_listPart hfirst).2]
      exact ⟨_, List.mem_cons_of_mem _ List.mem_cons_self, _, String.append_assoc ..⟩
  | hide | slots | groups => cases hfirst

namespace Features

/-- The texts of features have no separators, and revenues none but those of their own parts. -/
structure Plain (features : Features) : Prop where
  offboard : ∀ place ∈ features.offboard, place.Plain
  cities : ∀ place ∈ features.cities, place.Plain
  towns : ∀ place ∈ features.towns, place.Plain
  gauges : ∀ path ∈ features.paths, ∀ gauge ∈ path.2.2, Avoids separators gauge
  labels : ∀ label ∈ features.labels, Avoids separators label
  cost : ∀ cost ∈ features.cost, Avoids separators cost
  terrain : ∀ kind ∈ features.terrain, Avoids separators kind

variable {a b : Features}

theorem exists_lead (features : Features) :
    ∀ kind, ∀ s ∈ features.texts kind, ∃ lead ∈ kind.leads, ∃ tail, s = lead ++ tail := by
  intro kind s hs
  have hplace (lead : String) (place : PayingPlace) : ∃ tail, place.text lead = lead ++ tail := by
    obtain ⟨tail, htail⟩ := Text.exists_intercalate_cons_eq "," (lead ++ place.revenue) _
    exact ⟨_, htail.trans (String.append_assoc ..)⟩
  cases kind with
  | junction =>
      exact ⟨_, List.mem_cons_self, "", (mem_flagPart hs).trans String.append_empty.symm⟩
  | offboard =>
      obtain ⟨place, -, rfl⟩ := mem_toList_map hs
      exact ⟨_, List.mem_cons_self, hplace _ place⟩
  | city =>
      obtain ⟨place, -, rfl⟩ := List.mem_map.mp hs
      exact ⟨_, List.mem_cons_self, hplace _ place⟩
  | town =>
      obtain ⟨place, -, rfl⟩ := List.mem_map.mp hs
      exact ⟨_, List.mem_cons_self, hplace _ place⟩
  | path =>
      obtain ⟨path, -, rfl⟩ := List.mem_map.mp hs
      obtain ⟨tail, htail⟩ := Text.exists_intercalate_cons_eq "," ("path=a:" ++ path.1.render) _
      exact ⟨_, List.mem_cons_self, _, htail.trans (String.append_assoc ..)⟩
  | label =>
      obtain ⟨label, -, rfl⟩ := List.mem_map.mp hs
      exact ⟨_, List.mem_cons_self, label, rfl⟩
  | terrain => exact exists_lead_terrainTexts s hs
  | border =>
      obtain ⟨edge, -, rfl⟩ := mem_toList_map hs
      exact ⟨_, List.mem_cons_self, _, rfl⟩

theorem ofText_texts (features : Features) :
    ∀ kind, ∀ s ∈ features.texts kind, FeatureKind.ofText s = kind := by
  intro kind s hs
  obtain ⟨lead, hlead, tail, rfl⟩ := features.exists_lead kind s hs
  exact kind.ofText_lead lead hlead tail

theorem avoids_texts {features : Features} (h : features.Plain) :
    ∀ kind, ∀ s ∈ features.texts kind, Avoids [';'] s := by
  intro kind s hs
  cases kind with
  | junction =>
      rw [mem_flagPart hs]
      simp [Avoids]
  | offboard =>
      obtain ⟨place, hplace, rfl⟩ := mem_toList_map hs
      exact PayingPlace.avoids_text (by simp [Avoids]) (h.offboard place hplace)
  | city =>
      obtain ⟨place, hplace, rfl⟩ := List.mem_map.mp hs
      exact PayingPlace.avoids_text (by simp [Avoids]) (h.cities place hplace)
  | town =>
      obtain ⟨place, hplace, rfl⟩ := List.mem_map.mp hs
      exact PayingPlace.avoids_text (by simp [Avoids]) (h.towns place hplace)
  | path =>
      obtain ⟨path, hpath, rfl⟩ := List.mem_map.mp hs
      exact avoids_join (avoids_pathParts (h.gauges path hpath))
  | label =>
      obtain ⟨label, hlabel, rfl⟩ := List.mem_map.mp hs
      exact Avoids.append (by simp [Avoids]) ((h.labels label hlabel).mono (by simp [separators]))
  | terrain =>
      rw [(mem_listPart hs).2, String.empty_append]
      exact avoids_join (avoids_terrainParts h.cost h.terrain)
  | border =>
      obtain ⟨edge, -, rfl⟩ := mem_toList_map hs
      exact Avoids.append (by simp [Avoids]) (Text.avoids_toString_integer (by simp) edge)

/-- Plain features that have the same text for each kind are the same. -/
theorem eq_of_texts_eq (ha : a.Plain) (hb : b.Plain) (h : ∀ kind, a.texts kind = b.texts kind) :
    a = b := by
  have hjunction : a.junction = b.junction := flagPart_injective (h .junction)
  have hoffboard : a.offboard = b.offboard :=
    toList_map_injective (fun place hplace other hother => PayingPlace.text_injective
      (by simp [Avoids]) (ha.offboard place hplace) (hb.offboard other hother)) (h .offboard)
  have hcities : a.cities = b.cities :=
    map_eq_map_injective (fun place hplace other hother => PayingPlace.text_injective
      (by simp [Avoids]) (ha.cities place hplace) (hb.cities other hother)) (h .city)
  have htowns : a.towns = b.towns :=
    map_eq_map_injective (fun place hplace other hother => PayingPlace.text_injective
      (by simp [Avoids]) (ha.towns place hplace) (hb.towns other hother)) (h .town)
  have hpaths : a.paths = b.paths :=
    map_eq_map_injective (fun path hpath other hother =>
      pathText_injective (ha.gauges path hpath) (hb.gauges other hother)) (h .path)
  have hlabels : a.labels = b.labels :=
    map_eq_map_injective (fun _ _ _ _ hlabel => (String.append_right_inj _).mp hlabel) (h .label)
  obtain ⟨hcost, hterrain⟩ :=
    terrainTexts_injective ha.cost ha.terrain hb.cost hb.terrain (h .terrain)
  have hborder : a.border = b.border :=
    toList_map_injective (fun _ _ _ _ htext =>
      Text.toString_integer_injective ((String.append_right_inj _).mp htext)) (h .border)
  cases a
  cases b
  simp_all

theorem texts_eq_nil_iff (features : Features) :
    FeatureKind.all.flatMap features.texts = [] ↔ features.render = "" := by
  constructor
  · intro hnil
    rw [render, hnil, String.intercalate_nil]
  · intro hempty
    by_contra hne
    obtain ⟨first, rest, hcons⟩ := List.exists_cons_of_ne_nil hne
    obtain ⟨kind, -, hfirst⟩ := List.mem_flatMap.mp (hcons ▸ List.mem_cons_self)
    obtain ⟨lead, hlead, tail, rfl⟩ := features.exists_lead kind first hfirst
    obtain ⟨others, hothers⟩ := Text.exists_intercalate_cons_eq ";" (lead ++ tail) rest
    rw [render, hcons, hothers, String.append_assoc] at hempty
    exact kind.append_lead_ne_empty lead hlead _ hempty

theorem render_injective (ha : a.Plain) (hb : b.Plain) (h : a.render = b.render) : a = b := by
  have havoid {features : Features} (hplain : features.Plain) :
      ∀ s ∈ FeatureKind.all.flatMap features.texts, ';' ∉ s.toList := by
    intro s hs
    obtain ⟨kind, -, hs⟩ := List.mem_flatMap.mp hs
    exact avoids_texts hplain kind s hs ';' (by simp)
  have hnil : FeatureKind.all.flatMap a.texts = [] ↔ FeatureKind.all.flatMap b.texts = [] := by
    rw [a.texts_eq_nil_iff, b.texts_eq_nil_iff, h]
  have htexts := intercalate_injective ";" rfl (havoid ha) (havoid hb) hnil h
  refine eq_of_texts_eq ha hb fun kind => ?_
  refine Text.flatMap_mark_injective FeatureKind.ofText a.ofText_texts b.ofText_texts (by decide) htexts
    kind ?_
  cases kind <;> simp [FeatureKind.all]

end Features

/-! ### Hexes -/

/-- The text of an amount that is one. -/
def Amount.written : Amount → List String
  | number _ => []
  | text written => [written]

/-- The texts that the encoding of an off-board area takes over. -/
def Offboard.freeTexts (offboard : Offboard) : List String :=
  offboard.revenues.flatMap (fun r => r.color.toList ++ r.amount.written) ++ offboard.groups

/-- The texts that the encoding of a hex takes over: colors, amounts that are texts, groups, gauges,
labels, and kinds of terrain as they are drawn. -/
def Hex.freeTexts (tables : Tables) (h : Hex) : List String :=
  h.offboard.toList.flatMap Offboard.freeTexts ++ h.values.flatMap Amount.written ++
    (h.cities ++ h.allTowns).flatMap Stop.groups ++ h.track.filterMap Track.gauge ++ h.labels ++
    (h.terrain.filterMap Terrain.cost).flatMap Amount.written ++ h.terrainKinds tables

/-- No text that the encoding of a hex takes over has a separator. -/
def Hex.Plain (tables : Tables) (h : Hex) : Prop := ∀ s ∈ h.freeTexts tables, Avoids separators s

theorem Amount.avoids_shown {amount : Amount} (h : ∀ s ∈ amount.written, Avoids separators s) :
    Avoids separators amount.shown := by
  cases amount with
  | number value => exact Text.avoids_toString_integer (by simp [separators]) value.toInt
  | text written => exact h written List.mem_cons_self

theorem Amount.eq_of_dieselCost {amount : Amount} {cost : String} (h : amount.dieselCost = some cost) :
    amount = .text ("D" ++ cost) := by
  cases amount with
  | number value => cases h
  | text written =>
      simp only [dieselCost] at h
      split at h
      · next chars hchars =>
          obtain rfl := Option.some.inj h
          rw [Amount.text.injEq, ← String.toList_inj, hchars]
          simp
      · cases h

theorem PhasePay.avoids_render {r : PhaseRevenue} (hcolor : ∀ color ∈ r.color, Avoids separators color)
    (hamount : ∀ s ∈ r.amount.written, Avoids separators s) :
    Avoids separators (PhasePay.ofRevenue r).render := by
  cases hdiesel : r.amount.dieselCost with
  | some cost =>
      have hwritten : Avoids separators ("D" ++ cost) :=
        hamount _ (Amount.eq_of_dieselCost hdiesel ▸ List.mem_cons_self)
      have hcost : Avoids separators cost := by
        intro c hc hmem
        exact hwritten c hc (by rw [String.toList_append]; exact List.mem_append_right _ hmem)
      rw [ofRevenue, hdiesel]
      exact Avoids.append (by simp [Avoids, separators]) hcost
  | none =>
      have hcolor : Avoids separators (r.color.getD "") := by
        cases hcolor' : r.color with
        | none => simp [Avoids]
        | some color => exact hcolor color hcolor'
      rw [ofRevenue, hdiesel]
      exact (hcolor.append (by simp [Avoids, separators])).append (Amount.avoids_shown hamount)

theorem Offboard.avoids_amounts {offboard : Offboard}
    (h : ∀ s ∈ offboard.freeTexts, Avoids separators s) :
    Avoids [';', ','] (Revenue.ofOffboard offboard).amounts := by
  refine .intercalate (by simp [Avoids]) fun s hs => ?_
  obtain ⟨pay, hpay, rfl⟩ := List.mem_map.mp hs
  obtain ⟨r, hr, rfl⟩ := List.mem_map.mp hpay
  have hfree : ∀ s ∈ r.color.toList ++ r.amount.written, Avoids separators s := fun s hs =>
    h s (List.mem_append_left _ (List.mem_flatMap.mpr ⟨r, hr, hs⟩))
  have hrender := PhasePay.avoids_render
    (fun color hcolor => hfree color (List.mem_append_left _ (Option.mem_toList.mpr hcolor)))
    (fun s hs => hfree s (List.mem_append_right _ hs))
  exact hrender.mono (by simp [separators])

namespace Hex

variable {tables : Tables} {h : Hex}

theorem Plain.offboard (hplain : h.Plain tables) {offboard : Offboard}
    (hoffboard : h.offboard = some offboard) : ∀ s ∈ offboard.freeTexts, Avoids separators s := by
  intro s hs
  exact hplain s (by simp [freeTexts, hoffboard, hs])

theorem Plain.amount (hplain : h.Plain tables) {amount : Amount} (hamount : amount ∈ h.values) :
    Avoids separators amount.shown := by
  refine Amount.avoids_shown fun s hs => hplain s ?_
  have hmem : s ∈ h.values.flatMap Amount.written := List.mem_flatMap.mpr ⟨amount, hamount, hs⟩
  simp [freeTexts, hmem]

theorem Plain.groups (hplain : h.Plain tables) {stop : Stop} (hstop : stop ∈ h.cities ++ h.allTowns) :
    ∀ group ∈ stop.groups, Avoids separators group := by
  intro group hgroup
  have hmem : group ∈ (h.cities ++ h.allTowns).flatMap Stop.groups :=
    List.mem_flatMap.mpr ⟨stop, hstop, hgroup⟩
  exact hplain group (by simp only [freeTexts, List.mem_append, hmem, or_true, true_or])

theorem Plain.stopRevenue (hplain : h.Plain tables) (index : Nat) :
    Avoids [';', ','] (h.stopRevenue index).amounts := by
  unfold Hex.stopRevenue
  split
  · next amount hamount =>
      have hmem : amount ∈ h.values := by
        rcases Option.or_eq_some_iff.mp hamount with hindex | ⟨-, hhead⟩
        · exact List.mem_of_getElem? hindex
        · exact List.mem_of_head? hhead
      exact (hplain.amount hmem).mono (by simp [separators])
  · split
    · next offboard hoffboard => exact Offboard.avoids_amounts (hplain.offboard hoffboard)
    · exact Text.avoids_toString_integer (by simp) 0

/-- The features of a hex with plain texts are plain. -/
theorem Plain.features (hplain : h.Plain tables) (layout : Layout) :
    (h.features tables layout).Plain where
  offboard := by
    intro place hplace
    simp only [Hex.features] at hplace
    split at hplace
    · cases hplace
    · obtain ⟨offboard, hoffboard, rfl⟩ := Option.map_eq_some_iff.mp hplace
      refine ⟨Offboard.avoids_amounts (hplain.offboard hoffboard), fun group hgroup => ?_⟩
      exact hplain.offboard hoffboard group (List.mem_append_right _ hgroup)
  cities := by
    intro place hplace
    obtain ⟨index, hindex, rfl⟩ := List.mem_mapIdx.mp hplace
    have hstop := List.mem_append_left h.allTowns (List.getElem_mem hindex)
    exact ⟨hplain.stopRevenue index, hplain.groups hstop⟩
  towns := by
    intro place hplace
    obtain ⟨index, hindex, rfl⟩ := List.mem_mapIdx.mp hplace
    have hstop := List.mem_append_right h.cities (List.getElem_mem hindex)
    exact ⟨hplain.stopRevenue index, hplain.groups hstop⟩
  gauges := by
    intro path hpath gauge hgauge
    obtain ⟨paths, hpaths, hpath⟩ := List.mem_flatten.mp hpath
    obtain ⟨index, hindex, rfl⟩ := List.mem_mapIdx.mp hpaths
    obtain ⟨ends, -, rfl⟩ := List.mem_map.mp hpath
    have hshown := (Option.filter_eq_some_iff.mp hgauge).1
    have hmem : gauge ∈ h.track.filterMap Track.gauge :=
      List.mem_filterMap.mpr ⟨_, List.getElem_mem hindex, hshown⟩
    exact hplain gauge (by simp only [freeTexts, List.mem_append, hmem, or_true, true_or])
  labels := by
    intro label hlabel
    have hmem : label ∈ h.labels := hlabel
    exact hplain label (by simp only [freeTexts, List.mem_append, hmem, or_true, true_or])
  cost := by
    intro cost hcost
    obtain ⟨amount, hamount, rfl⟩ := Option.map_eq_some_iff.mp hcost
    obtain ⟨terrain, hterrain, hcost⟩ := List.exists_of_findSome?_eq_some hamount
    refine Amount.avoids_shown fun s hs => hplain s ?_
    have hmem : s ∈ (h.terrain.filterMap Terrain.cost).flatMap Amount.written :=
      List.mem_flatMap.mpr ⟨amount, List.mem_filterMap.mpr ⟨terrain, hterrain, hcost⟩, hs⟩
    simp only [freeTexts, List.mem_append, hmem, or_true, true_or]
  terrain := by
    intro kind hkind
    have hmem : kind ∈ h.terrainKinds tables := hkind
    exact hplain kind (by simp only [freeTexts, List.mem_append, hmem, or_true])

/-- The encodings of two hexes with plain texts that bring none of their own are the same exactly when
their features are. -/
theorem encode_eq_iff (layout : Layout) {a b : Hex} (ha : a.encoding = none) (hb : b.encoding = none)
    (hplain : a.Plain tables) (hplain' : b.Plain tables) :
    a.encode tables layout = b.encode tables layout ↔
      a.features tables layout = b.features tables layout := by
  rw [encode_eq_render tables layout a ha, encode_eq_render tables layout b hb]
  constructor
  · exact Features.render_injective (hplain.features layout) (hplain'.features layout)
  · exact congrArg Features.render

/-- An encoding tells the features of a hex with plain texts that brings none of its own, so an entry of
the hex table, which is found by its encoding, is made of hexes of one color with the same features. -/
theorem features_of_encode (tables : Tables) (layout : Layout) :
    (∀ a b : Hex, a.encoding = none → b.encoding = none → a.Plain tables → b.Plain tables →
      a.encode tables layout = b.encode tables layout →
        a.features tables layout = b.features tables layout) ∧
    ∀ hexes : List Hex, (∀ h ∈ hexes, h.encoding = none ∧ h.Plain tables) →
      ∀ color group, (color, group) ∈ hexTable tables layout hexes →
        ∀ encoding coords, (encoding, coords) ∈ group →
          ∃ features, coords = (hexes.filter fun h =>
            h.bucket tables = color ∧ h.features tables layout = features).flatMap Hex.coords := by
  refine ⟨fun a b ha hb hplain hplain' => (encode_eq_iff layout ha hb hplain hplain').mp, ?_⟩
  intro hexes hhexes color group hgroup encoding coords hentry
  obtain ⟨hne, hcoords⟩ := coords_of_mem hgroup hentry
  obtain ⟨coord, hcoord⟩ := List.exists_mem_of_ne_nil coords hne
  rw [hcoords] at hcoord
  obtain ⟨first, hfirst, -⟩ := List.mem_flatMap.mp hcoord
  obtain ⟨hfirst, hmatch⟩ := List.mem_filter.mp hfirst
  obtain ⟨-, hencoding⟩ := of_decide_eq_true hmatch
  refine ⟨first.features tables layout, ?_⟩
  rw [hcoords]
  congr 1
  refine List.filter_congr fun h hh => decide_eq_decide.mpr (and_congr_right fun _ => ?_)
  rw [← hencoding, encode_eq_iff layout (hhexes h hh).1 (hhexes first hfirst).1 (hhexes h hh).2
    (hhexes first hfirst).2]

def throughCity (coord : String) : Hex where
  coords := [coord]
  cities := [{ size := some 2, groups := ["NY"] }]
  values := [.text "30"]
  track := [{ kind := some "straight", gauge := some "narrow" }]

theorem features_of_encode_throughCity :
    (throughCity "A1").features .standard .flat = (throughCity "B2").features .standard .flat ∧
      ∃ features, ["A1", "B2"] = ([throughCity "A1", throughCity "B2"].filter fun h =>
        h.bucket .standard = "white" ∧ h.features .standard .flat = features).flatMap Hex.coords := by
  have hplain (coord : String) : (throughCity coord).Plain .standard := by
    have hfree : (throughCity coord).freeTexts .standard = ["30", "NY", "narrow"] := rfl
    rw [Plain, hfree]
    simp [Avoids, separators]
  have htable : hexTable .standard .flat [throughCity "A1", throughCity "B2"] = [("white",
      [("city=revenue:30,slots:2,groups:NY;path=a:1,b:4,track:narrow", ["A1", "B2"])])] := rfl
  obtain ⟨hfeatures, hentries⟩ := features_of_encode .standard .flat
  refine ⟨hfeatures _ _ rfl rfl (hplain "A1") (hplain "B2") rfl, ?_⟩
  refine hentries _ ?_ _ _ (htable ▸ List.mem_cons_self) _ _ List.mem_cons_self
  intro h hh
  rcases List.mem_cons.mp hh with rfl | hh
  · exact ⟨rfl, hplain "A1"⟩
  · rw [List.mem_singleton.mp hh]
    exact ⟨rfl, hplain "B2"⟩

end Hex

end Rail18
