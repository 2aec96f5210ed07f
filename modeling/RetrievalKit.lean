import RetrievalKit.Cohere.Chat
import RetrievalKit.Cohere.Embed
import RetrievalKit.Cohere.Rerank
import RetrievalKit.Embedding.Hashed
import RetrievalKit.HuggingFace.Embed
import RetrievalKit.HuggingFace.Endpoint
import RetrievalKit.Proofs.Chat.Grouping
import RetrievalKit.Proofs.Clients.Refusals
import RetrievalKit.Proofs.Clients.Retried
import RetrievalKit.Proofs.Clients.Worlds
import RetrievalKit.Proofs.Cohere.Agreement
import RetrievalKit.Proofs.Cohere.Ranking
import RetrievalKit.Proofs.Cohere.Stream
import RetrievalKit.Proofs.Embedding.Decoding
import RetrievalKit.Proofs.HuggingFace.Construction
import RetrievalKit.Proofs.HuggingFace.Headers
import RetrievalKit.Proofs.HuggingFace.Parameters
import RetrievalKit.Proofs.HuggingFace.Requests
import RetrievalKit.Proofs.HuggingFace.StreamCut
import RetrievalKit.Proofs.HuggingFace.StreamEnd
import RetrievalKit.Proofs.HuggingFace.Stripping
import RetrievalKit.Proofs.HuggingFace.Tokens
import RetrievalKit.Proofs.Json.Dict
import RetrievalKit.Proofs.Json.Records
import RetrievalKit.Proofs.Json.RoundTrip
import RetrievalKit.Proofs.Numeric.Order
import RetrievalKit.Proofs.Retrieval.Provenance
import RetrievalKit.Proofs.Retrieval.Search
import RetrievalKit.Proofs.Retrieval.Threshold
import RetrievalKit.Proofs.Runnable.Expression
import RetrievalKit.Proofs.Runnable.FixedConfig
import RetrievalKit.Proofs.Sse.Boundaries
import RetrievalKit.Proofs.Sse.Characters
import RetrievalKit.Proofs.Sse.Events
import RetrievalKit.Proofs.Streams.Division
import RetrievalKit.Proofs.Streams.Draining
import RetrievalKit.Proofs.Streams.Ending
import RetrievalKit.Proofs.Surreal.Assigned
import RetrievalKit.Proofs.Surreal.Binding
import RetrievalKit.Proofs.Surreal.Clause
import RetrievalKit.Proofs.Surreal.Database
import RetrievalKit.Proofs.Surreal.Failures
import RetrievalKit.Proofs.Surreal.Parameters
import RetrievalKit.Proofs.Surreal.Paths
import RetrievalKit.Proofs.Surreal.Query
import RetrievalKit.Proofs.Surreal.RecordNames
import RetrievalKit.Proofs.Surreal.Replies
import RetrievalKit.Proofs.Surreal.RetriedWrites
import RetrievalKit.Proofs.Surreal.Runs
import RetrievalKit.Proofs.Surreal.Shelf
import RetrievalKit.Proofs.Surreal.Variables
import RetrievalKit.Proofs.Wire.Attempts
import RetrievalKit.Proofs.Wire.Retrying
import RetrievalKit.Retrieval.Retriever
import RetrievalKit.Runnable.Answering
import RetrievalKit.Surreal.Store
import RetrievalKit.Wire.Bench
import RetrievalKit.Wire.Retry
