import ScriptLexicon.Json.Reader
import ScriptLexicon.Proofs.Admission
import ScriptLexicon.Proofs.DumpSequence
import ScriptLexicon.Proofs.Listing
import ScriptLexicon.Proofs.Ranges
import ScriptLexicon.Proofs.SessionEvents
import ScriptLexicon.Proofs.SessionMemory
import ScriptLexicon.Proofs.StoredChoice
import ScriptLexicon.Proofs.Vocabulary
import ScriptLexicon.Proofs.WalkInterleaving
import ScriptLexicon.Proofs.WalkRefinement
