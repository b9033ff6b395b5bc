import Asap.LiteralSubstitution
import Asap.PythonJson

-- The Lambda codec of the transport: JSON texts with the common keys and values as atoms.
namespace Asap.LambdaCodec
open OrderedDict LiteralSubstitution PythonValue

def versionPrefix : String := "λ1:"

def encodeRows : List (String × String) :=
  [("\"jsonrpc\"","§Jrpc§"),("\"method\"","§Mthd§"),("\"params\"","§Prms§"),("\"result\"","§Rslt§"),
   ("\"error\"","§Er§"),("\"id\"","§Id§"),("\"code\"","§Cd§"),("\"message\"","§Msg§"),
   ("\"data\"","§Dt§"),("\"envelope\"","§Env§"),("\"sender\"","§Snd§"),("\"recipient\"","§Rcp§"),
   ("\"payload\"","§Pld§"),("\"payload_type\"","§Pt§"),("\"task_id\"","§Ta§"),("\"status\"","§St§"),
   ("\"trace_id\"","§Tr§"),("\"timestamp\"","§Ts§"),("\"nonce\"","§Nc§"),("\"version\"","§Vr§"),
   ("\"description\"","§Ds§"),("\"idempotency_key\"","§Ik§"),("\"asap.message\"","§Am§"),("\"2.0\"","§V2§"),
   ("\"task.request\"","§Treq§"),("\"task.response\"","§Tres§"),("\"task.status\"","§Tst§"),("\"task.cancel\"","§Tcn§"),
   ("\"heartbeat\"","§Hb§"),("\"success\"","§Ok§"),("\"pending\"","§Pn§"),("\"running\"","§Rn§"),
   ("\"completed\"","§Cp§"),("\"failed\"","§Fl§"),("\"cancelled\"","§Cx§")]

def charRows : List (List Char × List Char) := encodeRows.map (fun row => (row.1.toList,row.2.toList))

-- Every key is a text in quotes and every atom one in section signs, so the keys do not overlap
-- and each of the two patterns has one match at a place at most.
theorem charRows_sound : (charRows.map Prod.fst).Nodup ∧ (charRows.map Prod.snd).Nodup ∧
    ∀ row ∈ charRows, Wrapped '"' '§' row.1 ∧ Wrapped '§' '"' row.2 := by decide +kernel

def encodeMap : Dict (List Char) (List Char) := ⟨charRows,charRows_sound.1⟩

def decodeMap : Dict (List Char) (List Char) := encodeMap.invert

def encode (jsonStr : String) : String := versionPrefix ++ String.ofList (substitute encodeMap jsonStr.toList)

def decode (encoded : String) : Except String String :=
  if versionPrefix.toList.isPrefixOf encoded.toList then
    .ok (String.ofList (substitute decodeMap (encoded.toList.drop versionPrefix.length)))
  else .error ("Invalid Lambda codec format: missing version prefix. " ++
    "Expected '" ++ versionPrefix ++ "' at start of encoded string.")

def codebook : Codebook Char where
  quote := '"'
  mark := '§'
  table := encodeMap
  apart := by decide
  tokens row inside := (charRows_sound.2.2 row inside).1
  atoms row inside := (charRows_sound.2.2 row inside).2
  injective := charRows_sound.2.1

-- An atom of the table, or one that a key closes: its section sign is the one of the key's atom.
def HoldsAtom (jsonStr : String) : Prop :=
  ∃ row ∈ encodeRows, row.2.toList <:+: jsonStr.toList ∨
    ∃ other ∈ encodeRows, row.2.toList.dropLast ++ other.1.toList <:+: jsonStr.toList

theorem decode_encode (jsonStr : String) :
    decode (encode jsonStr) = .ok (String.ofList (codebook.decode (codebook.encode jsonStr.toList))) := by
  have starts : versionPrefix.toList.isPrefixOf (encode jsonStr).toList = true := by simp [encode]
  have body : (encode jsonStr).toList.drop versionPrefix.length = codebook.encode jsonStr.toList := by
    rw [encode,String.toList_append,String.toList_ofList,← String.length_toList,List.drop_left]
    rfl
  rw [decode,if_pos starts,body]
  rfl

theorem mem_keys (key : List Char) : key ∈ encodeMap.keys ↔ ∃ row ∈ encodeRows, row.1.toList = key := by
  simp [Dict.keys,encodeMap,charRows]

theorem mem_values (atom : List Char) : atom ∈ encodeMap.values ↔ ∃ row ∈ encodeRows, row.2.toList = atom := by
  simp [Dict.values,encodeMap,charRows]

theorem atom_closed (row : String × String) (known : row ∈ encodeRows) : row.2.toList.dropLast ++ ['§'] = row.2.toList := by
  have entry : (row.1.toList,row.2.toList) ∈ charRows := List.mem_map.mpr ⟨row,known,rfl⟩
  obtain ⟨name,shape,-⟩ := codebook.atom_shape entry
  rw [shape,reclosed]
  rfl

theorem confuses_iff (jsonStr : String) : codebook.Confuses jsonStr.toList ↔ HoldsAtom jsonStr := by
  constructor
  · rintro ⟨pattern,member,inside⟩
    obtain ⟨atom,listed,member⟩ := List.mem_flatMap.mp member
    obtain ⟨row,known,rfl⟩ := (mem_values atom).mp listed
    obtain ⟨closing,closes,rfl⟩ := List.mem_map.mp member
    rcases List.mem_cons.mp closes with rfl | isKey
    · refine ⟨row,known,.inl ?_⟩
      rw [← atom_closed row known]
      exact inside
    · obtain ⟨other,alsoKnown,rfl⟩ := (mem_keys closing).mp isKey
      exact ⟨row,known,.inr ⟨other,alsoKnown,inside⟩⟩
  · rintro ⟨row,known,inside⟩
    have listed : row.2.toList ∈ codebook.table.values := (mem_values _).mpr ⟨row,known,rfl⟩
    rcases inside with inside | ⟨other,alsoKnown,inside⟩
    · rw [← atom_closed row known] at inside
      exact ⟨_,List.mem_flatMap.mpr ⟨_,listed,List.mem_map.mpr ⟨['§'],List.mem_cons_self,rfl⟩⟩,inside⟩
    · have isKey : other.1.toList ∈ codebook.table.keys := (mem_keys _).mpr ⟨other,alsoKnown,rfl⟩
      exact ⟨_,List.mem_flatMap.mpr ⟨_,listed,List.mem_map.mpr ⟨_,List.mem_cons_of_mem _ isKey,rfl⟩⟩,inside⟩

theorem lambda_faithful_iff (jsonStr : String) : decode (encode jsonStr) = .ok jsonStr ↔ ¬ HoldsAtom jsonStr := by
  rw [decode_encode,← confuses_iff,← codebook.decode_encode_iff,Except.ok.injEq]
  constructor
  · intro same
    rw [← String.toList_inj,String.toList_ofList] at same
    exact same
  · intro same
    rw [same,String.ofList_toList]

-- A JSON string may hold a section sign as it is, and this one an atom.
theorem lambda_unfaithful : loads integersOnly "\"§Id§\"" = some (.str "§Id§") ∧
    decode (encode "\"§Id§\"") = .ok "\"\"id\"\"" ∧ decode (encode "\"§Id§\"") ≠ .ok "\"§Id§\"" := by
  have decoded : decode (encode "\"§Id§\"") = .ok "\"\"id\"\"" := by decide +kernel
  refine ⟨rfl,decoded,?_⟩
  rw [decoded]
  decide

end Asap.LambdaCodec
