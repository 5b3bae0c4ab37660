import NewsScoring.Corpus.Workshop
import NewsScoring.Distribution.Samples
import NewsScoring.Instant.Printer
import NewsScoring.Main
import NewsScoring.RankedList.Inspection
import NewsScoring.TfIdf.Memo
import NewsScoring.Proofs.Vectorizer.Transparency
import NewsScoring.Proofs.Engine.Classification
import NewsScoring.Proofs.Distribution.Inverse
import NewsScoring.Proofs.Duplicates.Search
import NewsScoring.Proofs.Registry.WarmUp
import NewsScoring.Proofs.Bytes.Numbers
import NewsScoring.Proofs.Duplicates.Selection
import NewsScoring.Proofs.Cbor.Head
import NewsScoring.Proofs.Cbor.Item
import NewsScoring.Proofs.Cbor.Record
import NewsScoring.Proofs.TermBag.Tallies
import NewsScoring.Proofs.TermBag.Consistency
import NewsScoring.Proofs.Artifact.RoundTrip
import NewsScoring.Proofs.Binary.Format
import NewsScoring.Proofs.Cbor.Float
import NewsScoring.Proofs.Distribution.Samples
import NewsScoring.Proofs.Distribution.Stored
import NewsScoring.Proofs.TermBag.Counts
import NewsScoring.Proofs.Corpus.Inflow
import NewsScoring.Proofs.Distribution.Monotone
import NewsScoring.Proofs.Feature.Scores
import NewsScoring.Proofs.TfIdf.Keywords
import NewsScoring.Proofs.Config.Detection
import NewsScoring.Proofs.RankedList.Best
import NewsScoring.Proofs.TfIdf.Memo
import NewsScoring.Proofs.DocumentMemo.Calls
import NewsScoring.Proofs.Engine.Universe
import NewsScoring.Proofs.RankedList.Rising
import NewsScoring.Proofs.Distribution.OrderStatistics
import NewsScoring.Proofs.Distribution.Guarded
import NewsScoring.Proofs.Similarity
import NewsScoring.Proofs.TermBag.FirstOccurrence
import NewsScoring.Proofs.Tokenizer.ExtraWords
import NewsScoring.Proofs.TfIdf.Replaced
import NewsScoring.Proofs.Weighing.Ubiquitous
import NewsScoring.Proofs.Duplicates.Agreement
import NewsScoring.Proofs.Token.Sentences
import NewsScoring.Proofs.Tokenizer.WholeText
import NewsScoring.Proofs.Token.Endings
import NewsScoring.Proofs.Tokenizer.Terms
import NewsScoring.Proofs.Tokenizer.Listed
import NewsScoring.Proofs.Duplicates.Asking
import NewsScoring.Proofs.Feature.Highest
import NewsScoring.Proofs.Feature.Faults
import NewsScoring.Proofs.RankedList.Answers
import NewsScoring.Proofs.Distribution.Acceptance
import NewsScoring.Proofs.TermBag.Acceptance
import NewsScoring.Proofs.CommandLine.Accounting
