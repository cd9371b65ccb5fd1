import ModuleCatalog.Proofs.SourceEdits
import ModuleCatalog.Proofs.WritableFiles
import ModuleCatalog.Proofs.Yaml.SequenceTokens

/-!
Saving a source list and loading it again gives the same list, whatever its addresses consist of.

The file goes through the reader in three steps: its text is split into tokens, the tokens become a
document, and the document is taken as a list. Each step is followed for the file of any list that
has addresses and nothing but trimmed ones.
-/
namespace ModuleCatalog.Sources
open Yaml

section Tokens

open Lexer

def switchText (enabled : Bool) : List Char :=
  (if enabled then "true" else "false").toList

/-- The tokens of a saved source list. -/
def savedTokens (texts : List (List Char)) (enabled : Bool) : List Token :=
  [.blockMappingStart, .key, .scalar .plain urlsKey, .value] ++ itemTokens texts ++
    [.key, .scalar .plain nonFreeKey, .value, .scalar .plain (switchText enabled), .blockEnd]

theorem run?_urlsKey (cs : List Char) (n : Nat) :
    run? (n + 2) (start (urlsKey ++ ':' :: '\n' :: cs)) =
      run? n (inMapping ⟨'\n' :: cs, ⟨0, 5, 5⟩⟩
        [.value, .scalar .plain urlsKey, .key, .blockMappingStart] none false) :=
  rfl

/-- The lexer before the colon of the second key. The key stands where the mapping is indented, so
that its colon has to come before the line ends. -/
def atSwitchColon (enabled : Bool) (line : Nat) (tokens : List Token) : Lexer :=
  inMapping ⟨':' :: ' ' :: switchText enabled ++ ['\n'], ⟨line, 16, 16⟩⟩
    (.scalar .plain nonFreeKey :: tokens) (some ⟨true, tokens.length, ⟨line, 0, 0⟩⟩) false

theorem approach?_atSwitchColon (enabled : Bool) (line : Nat) (tokens : List Token) :
    (atSwitchColon enabled line tokens).approach? = some (atSwitchColon enabled line tokens) := by
  have hstay : (atSwitchColon enabled line tokens).approach? =
      (atSwitchColon enabled line tokens).dropStale?.bind fun l =>
        some (l.closeBlocks l.cursor.column) := rfl
  have hfresh : (atSwitchColon enabled line tokens).dropStale? =
      some (atSwitchColon enabled line tokens) := by
    simp [dropStale?, isStale, atSwitchColon, inMapping]
  rw [hstay, hfresh]
  exact congrArg some (closeBlocks_inMapping 16)

theorem value?_atSwitchColon (enabled : Bool) (line : Nat) (tokens : List Token) :
    (atSwitchColon enabled line tokens).value? =
      some (inMapping ⟨' ' :: switchText enabled ++ ['\n'], ⟨line, 17, 17⟩⟩
        (.value :: .scalar .plain nonFreeKey :: .key :: tokens) none false) := by
  have hinsert : (atSwitchColon enabled line tokens).insert tokens.length .key =
      inMapping ⟨':' :: ' ' :: switchText enabled ++ ['\n'], ⟨line, 16, 16⟩⟩
        (.scalar .plain nonFreeKey :: .key :: tokens)
        (some ⟨true, tokens.length, ⟨line, 0, 0⟩⟩) false := by
    simp [Lexer.insert, atSwitchColon, inMapping]
  rw [value?]
  simp only [atSwitchColon, inMapping] at hinsert ⊢
  rw [hinsert]
  rfl

theorem run?_switch {l : Lexer} {tokens : List Token} {enabled : Bool}
    (h : l.Reaches (nonFreeKey ++ ": ".toList ++ switchText enabled ++ ['\n']) tokens) (n : Nat) :
    ∃ l', run? (n + 4) l = some l' ∧
      l'.tokens = .blockEnd :: .scalar .plain (switchText enabled) :: .value ::
        .scalar .plain nonFreeKey :: .key :: tokens := by
  obtain ⟨line, happroach⟩ := h
  have hkey : (inMapping ⟨nonFreeKey ++ ": ".toList ++ switchText enabled ++ ['\n'], ⟨line, 0, 0⟩⟩
      tokens none true).plainScalar? = some (atSwitchColon enabled line tokens) := rfl
  rw [run?_step happroach rfl hkey, run?_step (approach?_atSwitchColon enabled line tokens) rfl
    (value?_atSwitchColon enabled line tokens)]
  -- No key is left to wait for, so the rest of the run does not depend on the line.
  cases enabled <;> exact ⟨_, rfl, rfl⟩

/-- The text of a saved source list that has addresses. -/
def savedText (texts : List (List Char)) (enabled : Bool) : List Char :=
  urlsKey ++ ':' :: '\n' :: texts.flatMap itemText ++
    (nonFreeKey ++ ": ".toList ++ switchText enabled ++ ['\n'])

theorem toList_render {s : Sources} (h : s.urls ≠ []) :
    s.render.toList = savedText (s.urls.map String.toList) s.includeNonFree := by
  have hurls : s.urls.isEmpty = false := by simpa using h
  simp [render, savedText, switchText, hurls, List.flatMap_map]

variable {texts : List (List Char)}

theorem isPrintable_of_mem_savedText {enabled : Bool} {c : Char} (h : c ∈ savedText texts enabled) :
    isPrintable c = true := by
  have hfirst : (urlsKey ++ [':', '\n']).all isPrintable = true := rfl
  have hlast : (nonFreeKey ++ ": ".toList ++ switchText enabled ++ ['\n']).all isPrintable =
      true := by
    cases enabled <;> rfl
  have hsplit : savedText texts enabled = urlsKey ++ [':', '\n'] ++ texts.flatMap itemText ++
      (nonFreeKey ++ ": ".toList ++ switchText enabled ++ ['\n']) := by
    simp [savedText]
  rw [hsplit, List.mem_append, List.mem_append] at h
  rcases h with (h | h) | h
  · exact List.all_eq_true.mp hfirst c h
  · obtain ⟨text, -, h⟩ := List.mem_flatMap.mp h
    exact isPrintable_of_mem_itemText h
  · exact List.all_eq_true.mp hlast c h

theorem run?_savedText (hne : texts ≠ []) (htexts : ∀ text ∈ texts, Trimmed text) (enabled : Bool)
    (n : Nat) :
    ∃ l, run? (n + 4 + 2 * texts.length + 2) (start (savedText texts enabled)) = some l ∧
      l.tokens = (savedTokens texts enabled).reverse := by
  obtain ⟨tail, htail⟩ :
      ∃ tail, nonFreeKey ++ ": ".toList ++ switchText enabled ++ ['\n'] = 'i' :: tail := ⟨_, rfl⟩
  obtain ⟨rest, hrest⟩ : ∃ rest, texts.flatMap itemText ++ 'i' :: tail = '-' :: rest := by
    obtain ⟨text, more, rfl⟩ := List.exists_cons_of_ne_nil hne
    exact ⟨_, by rw [List.flatMap_cons, itemText_eq (htexts text List.mem_cons_self)]; rfl⟩
  have hstart : savedText texts enabled =
      urlsKey ++ ':' :: '\n' :: (texts.flatMap itemText ++ 'i' :: tail) := by
    rw [savedText, htail]
    simp
  have hreaches : (inMapping ⟨'\n' :: (texts.flatMap itemText ++ 'i' :: tail), ⟨0, 5, 5⟩⟩
      [.value, .scalar .plain urlsKey, .key, .blockMappingStart] none false).Reaches
      (texts.flatMap itemText ++ 'i' :: tail)
      [.value, .scalar .plain urlsKey, .key, .blockMappingStart] := by
    rw [hrest]
    exact reaches_of_lineEnd startsToken_dash rest (by simp)
  obtain ⟨l, hl, hitems⟩ := run?_items htexts ⟨rfl, rfl, by decide, by decide⟩ hreaches
  rw [← htail] at hl
  obtain ⟨l', hl', htokens⟩ := run?_switch hl n
  refine ⟨l', ?_, ?_⟩
  · rw [hstart, run?_urlsKey, hitems, hl']
  · rw [htokens]
    simp [savedTokens]

theorem tokens?_savedText (hne : texts ≠ []) (htexts : ∀ text ∈ texts, Trimmed text)
    (enabled : Bool) : tokens? (savedText texts enabled) = some (savedTokens texts enabled) := by
  have hprintable : ∀ c ∈ savedText texts enabled, isPrintable c = true :=
    fun c hc => isPrintable_of_mem_savedText hc
  have hallowed : (savedText texts enabled).all isAllowed = true :=
    List.all_eq_true.mpr fun c hc => isAllowed_of_isPrintable (hprintable c hc)
  have hlength : 2 * texts.length + 6 ≤ (savedText texts enabled).length + 1 := by
    have hitems := length_le_flatMap_itemText htexts
    have hurls : urlsKey.length = 4 := rfl
    have hswitch : 4 ≤ (nonFreeKey ++ ": ".toList ++ switchText enabled ++ ['\n']).length := by
      cases enabled <;> decide
    rw [savedText, List.length_append, List.length_append, List.length_cons, List.length_cons]
    omega
  obtain ⟨n, hn⟩ := Nat.exists_eq_add_of_le hlength
  obtain ⟨l, hl, htokens⟩ := run?_savedText hne htexts enabled n
  have hsteps : (savedText texts enabled).length + 1 = n + 4 + 2 * texts.length + 2 := by omega
  rw [tokens?, if_pos hallowed, uniformBreaks_eq_self hprintable]
  simp only [hsteps, hl, Option.map_some, htokens, List.reverse_reverse]

end Tokens

section Nodes

variable {texts : List (List Char)} {handles : List (List Char × List UInt8)}
  {anchors : List (List Char × Nat)}

/-- The nodes that the addresses are read as. -/
def itemNodes (texts : List (List Char)) : List Node :=
  texts.map fun text => .scalar none (styleFor text) none text

theorem nodeBefore?_scalar (n : Nat) (block indentless : Bool) {ends : List Token} {style : Style}
    {text : List Char} (hends : ends.contains (.scalar style text) = false) (rest : List Token) :
    nodeBefore? (n + 2) block indentless ends ⟨.scalar style text :: rest, handles, anchors⟩ =
      some (.scalar none style none text, ⟨rest, handles, anchors⟩) := by
  rw [nodeBefore?, Remaining.atAny]
  simp only [List.head?_cons, Option.any_some, hends]
  rfl

/-- An item takes one call, and its node two more below it. -/
theorem indentless?_itemTokens (n : Nat) (read : List Node) (rest : List Token) :
    indentless? (texts.length + n + 3) none read
        ⟨itemTokens texts ++ .key :: rest, handles, anchors⟩ =
      some (.sequence none (read.reverse ++ itemNodes texts),
        ⟨.key :: rest, handles, anchors⟩) := by
  induction texts generalizing read with
  | nil => simp [indentless?, itemTokens, itemNodes]
  | cons text texts ih =>
    have hcalls : (text :: texts).length + n + 3 = texts.length + n + 3 + 1 := by
      rw [List.length_cons]
      omega
    have htokens : itemTokens (text :: texts) ++ .key :: rest =
        .blockEntry :: .scalar (styleFor text) text :: (itemTokens texts ++ .key :: rest) := by
      simp [itemTokens]
    rw [hcalls, htokens, indentless?]
    simp only [Remaining.next, List.drop_one, List.tail_cons]
    rw [nodeBefore?_scalar (texts.length + n + 1) true false rfl]
    simp only [ih]
    simp [itemNodes]

/-- The document of a saved source list. -/
def savedNode (texts : List (List Char)) (enabled : Bool) : Node :=
  .mapping none
    [(.scalar none .plain none urlsKey, .sequence none (itemNodes texts)),
      (.scalar none .plain none nonFreeKey, .scalar none .plain none (switchText enabled))]

theorem valueBefore?_itemTokens (hne : texts ≠ []) (n : Nat) (rest : List Token) :
    valueBefore? (texts.length + n + 6) true [.key, .value, .blockEnd]
        ⟨.value :: (itemTokens texts ++ .key :: rest), handles, anchors⟩ =
      some (.sequence none (itemNodes texts), ⟨.key :: rest, handles, anchors⟩) := by
  have hitems : indentless? (texts.length + n + 3) none []
      ⟨itemTokens texts ++ .key :: rest, handles, anchors⟩ =
      some (.sequence none (itemNodes texts), ⟨.key :: rest, handles, anchors⟩) :=
    indentless?_itemTokens n [] rest
  -- The first item shows that the value is a sequence and not missing.
  obtain ⟨text, more, rfl⟩ := List.exists_cons_of_ne_nil hne
  exact hitems

theorem blockMapping?_pair {n : Nat} {read : List (Node × Node)} {style : Style} {text : List Char}
    {rest : List Token} {value : Node} {r : Remaining}
    (hvalue : valueBefore? (n + 2) true [.key, .value, .blockEnd] ⟨rest, handles, anchors⟩ =
      some (value, r)) :
    blockMapping? (n + 3) none read ⟨.key :: .scalar style text :: rest, handles, anchors⟩ =
      blockMapping? (n + 2) none ((.scalar none style none text, value) :: read) r := by
  rw [blockMapping?]
  simp only [Remaining.next, List.drop_one, List.tail_cons]
  rw [nodeBefore?_scalar n true true rfl]
  simp only [hvalue]

theorem content?_savedTokens (hne : texts ≠ []) (enabled : Bool) :
    content? handles (savedTokens texts enabled) = some (savedNode texts enabled, []) := by
  have hcalls :
      callsFor (savedTokens texts enabled) = texts.length + (7 * texts.length + 32) + 8 := by
    have hitems : (itemTokens texts).length = 2 * texts.length := by
      simp [itemTokens, Nat.mul_comm]
    simp only [callsFor, savedTokens, List.length_append, List.length_cons, List.length_nil, hitems]
    omega
  -- The number of calls stays symbolic up to the second key; what follows it is computed.
  have hmapping (n : Nat) (rest : List Token) :
      node? (texts.length + n + 8) true false
        ⟨.blockMappingStart :: .key :: .scalar .plain urlsKey :: .value ::
          (itemTokens texts ++ .key :: rest), handles, []⟩ =
      blockMapping? (texts.length + n + 6) none
        [(.scalar none .plain none urlsKey, .sequence none (itemNodes texts))]
        ⟨.key :: rest, handles, []⟩ :=
    blockMapping?_pair (valueBefore?_itemTokens hne n rest)
  rw [content?, hcalls, savedTokens]
  simp only [List.cons_append, List.nil_append]
  rw [hmapping]
  rfl

theorem document?_savedText (hne : texts ≠ []) (htexts : ∀ text ∈ texts, Trimmed text)
    (enabled : Bool) : document? (savedText texts enabled) = some (savedNode texts enabled) := by
  have hdocument :
      firstDocument? (savedTokens texts enabled) = some (savedNode texts enabled, []) :=
    content?_savedTokens hne enabled
  obtain ⟨t, ts, hts⟩ : ∃ t ts, savedTokens texts enabled = t :: ts := ⟨_, _, rfl⟩
  rw [document?, tokens?_savedText hne htexts]
  simp only [hts] at hdocument ⊢
  simp only [hdocument]
  rfl

theorem readUrls?_itemNodes (root : Node) (urls : List String) :
    readUrls? root (.sequence none (itemNodes (urls.map String.toList))) = some urls := by
  have hitems : (itemNodes (urls.map String.toList)).mapM (fun x => (scalar? root x).map .ofList) =
      some urls := by
    induction urls with
    | nil => rfl
    | cons url urls ih =>
      simp only [itemNodes, List.map_cons, List.mapM_cons] at ih ⊢
      rw [ih]
      simp [scalar?, Node.target?]
  exact hitems

theorem ofNode?_savedNode (urls : List String) (enabled : Bool) :
    ofNode? (savedNode (urls.map String.toList) enabled) = some ⟨urls, enabled⟩ := by
  have hkeys : nonFreeKey ≠ urlsKey := by decide
  have hswitch (root : Node) :
      readSwitch? root (.scalar none .plain none (switchText enabled)) = some enabled := by
    cases enabled <;> rfl
  simp [ofNode?, savedNode, readPairs?, scalar?, Node.target?, readUrls?_itemNodes, hswitch, hkeys]

end Nodes

theorem inLine_of_not_isBlank {c : Char} (h : Text.isBlank c = false) :
    Yaml.isBlank c = false ∧ isBreak c = false := by
  constructor
  · rw [isBlank_eq_false_iff]
    constructor <;> (rintro rfl; cases h)
  · by_contra hbreak
    simp only [isBreak, Bool.not_eq_false, Bool.or_eq_true, beq_iff_eq] at hbreak
    rcases hbreak with (rfl | rfl) | rfl <;> cases h

theorem trimmed_of_trim_eq {url : String} (hne : url ≠ "") (htrim : Text.trim url = url) :
    Trimmed url.toList := by
  obtain ⟨hbegins, hends⟩ := Text.trimChars_eq_self_iff.mp (Text.trim_eq_self_iff.mp htrim)
  exact ⟨by simpa using hne, fun c hc => inLine_of_not_isBlank (hbegins c hc),
    fun c hc => inLine_of_not_isBlank (hends c hc)⟩

/-- The text of a sound list is read back as the list. -/
theorem Sound.parse?_render {s : Sources} (h : Sound s) : parse? s.render = some s := by
  have hne : s.urls.map String.toList ≠ [] := by simpa using h.nonempty
  have htexts : ∀ text ∈ s.urls.map String.toList, Trimmed text := by
    intro text ht
    obtain ⟨url, hu, rfl⟩ := List.mem_map.mp ht
    exact trimmed_of_trim_eq (h.trimmed url hu).1 (h.trimmed url hu).2
  rw [parse?, toList_render h.nonempty, document?_savedText hne htexts, Option.bind_some,
    ofNode?_savedNode]

theorem load_of_find? {files : FileTree} {path : String} {s : Sources} (hs : Sound s)
    (h : files.find? path = some (.file s.render.toUTF8)) : load files path = .ok s := by
  have htext : String.fromUTF8? s.render.toUTF8 = some s.render := dif_pos s.render.isValidUTF8
  rw [load, h]
  simp only [htext, hs.parse?_render, hs.normalize_eq]

theorem Sound.load_save {s : Sources} (hs : Sound s) {files : FileTree} {path : String}
    (h : (save files path s).error = none) : load (save files path s).files path = .ok s := by
  obtain ⟨made, -, hwrite⟩ := exists_of_save h
  exact load_of_find? hs (FileTree.find?_of_write? hwrite)

theorem resolve?_empty : FileTree.empty.resolve? "sources.yaml" = some ["sources.yaml"] := by
  decide +kernel

theorem get?_empty_sources : FileTree.empty.get? ["sources.yaml"] = none := by
  rw [FileTree.get?_empty]
  decide

/-- Among no files a source list can be saved in the working directory. -/
theorem save_empty (s : Sources) : (save .empty "sources.yaml" s).error = none := by
  have hparent : Path.parentOf "sources.yaml" = "" := rfl
  have hmade : FileTree.empty.makeDirectories (Path.parentOf "sources.yaml") = (.empty, none) := by
    rw [hparent]
    rfl
  have hfile : Path.meansDirectory "sources.yaml" = false := by decide +kernel
  have hwrite : FileTree.empty.write? "sources.yaml" s.render.toUTF8 =
      some (FileTree.empty.put ["sources.yaml"] (.file s.render.toUTF8)) := by
    simp [FileTree.write?, hfile, resolve?_empty, FileTree.isDirectory, get?_empty_sources]
  rw [save_eq hmade hwrite]

/-- Among no files there is the default list. -/
theorem load_empty : load .empty "sources.yaml" = .ok default := by
  have hfile : Path.meansDirectory "sources.yaml" = false := by decide +kernel
  have hfind : FileTree.empty.find? "sources.yaml" = none := by
    simp [FileTree.find?, hfile, resolve?_empty, get?_empty_sources]
  rw [load, hfind]
  simp only [sound_default.normalize_eq]

theorem initial_iff_sound {s : Sources} : Initial s ↔ Sound s :=
  ⟨Initial.sound, fun h => .inr ⟨_, _, h.load_save (save_empty s)⟩⟩

/-- Saving and loading loses nothing. Editing starts from any list whose addresses are trimmed and
not blank, and however it is edited, what is loaded from the file that it was saved in is the list
again, with its addresses in order and its switch. -/
theorem saved_edits_survive (start : Sources) (edits : List Edit) (files : FileTree)
    (path : String) :
    (Initial start ↔
      start.urls ≠ [] ∧ ∀ url ∈ start.urls, url ≠ "" ∧ Text.trim url = url) ∧
    (Initial start →
      let s := Edit.runAll edits start
      (save files path s).error = none → load (save files path s).files path = .ok s) := by
  constructor
  · rw [initial_iff_sound]
    exact ⟨fun h => ⟨h.nonempty, h.trimmed⟩, fun h => ⟨h.1, h.2⟩⟩
  · intro h s hsaved
    exact (sound_runAll h edits).load_save hsaved

/-- One address for each style: plain, in single quotes, as a block and in double quotes. -/
theorem saved_edits_survive_styles :
    let edits : List Edit := [.add "https://a.test", .remove 0, .add "https://a.test/ 'x' #y",
      .add "https://a.test/x\n- y: z", .add "https://a.test/\x07", .setNonFree true]
    let s := Edit.runAll edits default
    Initial default ∧
      s.urls.map (fun url => styleFor url.toList) =
        [.plain, .singleQuoted, .literal, .doubleQuoted] ∧
      (save .empty "sources.yaml" s).error = none ∧
      load (save .empty "sources.yaml" s).files "sources.yaml" = .ok s := by
  intro edits s
  have hstart : Initial default := .inl rfl
  have hsaved : (save .empty "sources.yaml" s).error = none := save_empty s
  have hurls : s.urls = ["https://a.test", "https://a.test/ 'x' #y", "https://a.test/x\n- y: z",
      "https://a.test/\x07"] := by
    decide +kernel
  obtain ⟨-, hload⟩ := saved_edits_survive default edits .empty "sources.yaml"
  refine ⟨hstart, ?_, hsaved, hload hstart hsaved⟩
  rw [hurls]
  decide +kernel

end ModuleCatalog.Sources
