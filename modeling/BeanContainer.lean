import BeanContainer.Class.Declaration
import BeanContainer.Lifecycle.Run
import BeanContainer.Proofs.Lifecycle.Deployed
import BeanContainer.Proofs.Lifecycle.Exclusion
import BeanContainer.Proofs.Deployment.Indexing
import BeanContainer.Proofs.Lifecycle.Annotated
import BeanContainer.Proofs.Lifecycle.News
import BeanContainer.Proofs.Lifecycle.Story
import BeanContainer.Proofs.Lifecycle.Protocol
import BeanContainer.Proofs.Lifecycle.Independence
import BeanContainer.Proofs.Lifecycle.SingleUse
import BeanContainer.Proofs.Discovery.Indexed
import BeanContainer.Proofs.Lifecycle.Enabled
import BeanContainer.Proofs.Discovery.Timing
import BeanContainer.Proofs.Lifecycle.Discovered
import BeanContainer.Proofs.Lifecycle.Questions
import BeanContainer.Proofs.Lifecycle.Markers
import BeanContainer.Proofs.Lifecycle.Written
import BeanContainer.Proofs.Lifecycle.Named
import BeanContainer.Proofs.Annotation.Replay
import BeanContainer.Proofs.Lifecycle.Shown
import BeanContainer.Proofs.Lifecycle.Beans
import BeanContainer.Proofs.Lifecycle.Lookup
import BeanContainer.Proofs.Class.Path
import BeanContainer.Proofs.Discovery.Registered
import BeanContainer.Proofs.Deployment.Batches
import BeanContainer.Proofs.Lifecycle.Batched
import BeanContainer.Proofs.Deployment.Aspects
import BeanContainer.Proofs.Lifecycle.Exchange
import BeanContainer.Proofs.Bean
import BeanContainer.Proofs.Class.Containment
import BeanContainer.Proofs.Annotation.Comparison
import BeanContainer.Proofs.Class.Declared
