import Retrieval.NearDuplicate
import Retrieval.Query.Evaluation
import Retrieval.Decimal.Fixed
import Retrieval.CommandLine.CrawlCommand
import Retrieval.CommandLine.IndexCommand
import Retrieval.CommandLine.ServeCommand
import Retrieval.Crawl.Fetch
import Retrieval.Main
import Retrieval.Proofs.Query.Scan
import Retrieval.Proofs.Query.Failure
import Retrieval.Proofs.Query.Composition
import Retrieval.Proofs.Index.Frequency
import Retrieval.Proofs.Index.Order
import Retrieval.Proofs.Index.Staleness
import Retrieval.Proofs.Index.Build
import Retrieval.Proofs.NearDuplicate
import Retrieval.Proofs.Crawl.Politeness
import Retrieval.Proofs.Crawl.Reachability
import Retrieval.Proofs.Service.Exchange
import Retrieval.Proofs.Service.Agreement
import Retrieval.Proofs.NearDuplicate.Answers
import Retrieval.Proofs.Query.Rendering
import Retrieval.Proofs.Crawl.Delivery
import Retrieval.Proofs.Crawl.Output
import Retrieval.Proofs.Crawl.Timetable
import Retrieval.Proofs.Query.Finding
import Retrieval.Proofs.Tokenizer.Case
import Retrieval.Proofs.Service.Champions
import Retrieval.Proofs.Index.Selection
import Retrieval.Proofs.Service.Origin
import Retrieval.Proofs.Index.Weighting
import Retrieval.Proofs.Query.Compound
import Retrieval.Proofs.Tokenizer.Segmentation
import Retrieval.Proofs.NearDuplicate.Separators
import Retrieval.Proofs.Crawl.Seeds
import Retrieval.Proofs.Shingle.Windows
import Retrieval.Proofs.Query.Frame
import Retrieval.Proofs.Corpus.Folder
import Retrieval.Proofs.Corpus.Records
